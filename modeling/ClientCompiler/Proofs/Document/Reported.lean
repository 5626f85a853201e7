import ClientCompiler.Proofs.Document.Routes

/-!
Reports on references. A reference is looked up by one name of its type: that of the type itself or,
if it is an array, of its innermost element. Where no model has the name, the log says so. The names
among the arguments of that type are looked up nowhere, and a module imports them all the same.
-/

namespace ClientCompiler

namespace TypeNode

/-- The names from a type to its innermost element. -/
def spine : TypeNode → List String
  | node n [] => [n]
  | node n (g :: _) => if n = "array" then n :: spine g else [n]

theorem mem_spine {t : TypeNode} {n : String} (h : n ∈ t.spine) :
    n = "array" ∨ n = t.innermost.name := by
  fun_induction spine t with
  | case1 m => exact Or.inr (List.mem_singleton.mp h)
  | case2 g _ ih =>
    rw [innermost, if_pos rfl]
    exact (List.mem_cons.mp h).elim Or.inl ih
  | case3 m g gs hm =>
    rw [innermost, if_neg hm]
    exact Or.inr (List.mem_singleton.mp h)

end TypeNode

namespace Schema

theorem mem_danglingLog {table : TypeTable} {registry : List String} {context : Option String}
    {target : TypeNode} {d : Diagnostic} :
    d ∈ danglingLog table registry context target ↔
      target.innermost.name ∉ registry ∧ table.isBase target.innermost.name = false ∧
        d = .unresolved target.innermost.name context := by
  simp only [danglingLog]
  by_cases hknown : target.innermost.name ∈ registry
  · simp [hknown]
  · cases hbase : table.isBase target.innermost.name <;> simp [hknown]

end Schema

namespace Parameters

variable {table : TypeTable} {registry : List String} {context : String}

theorem typed_of_extractAll {ps : List Value.Entries} {typed : List Parameter × List String}
    (h : (extractAll table registry context ps).result = .ok typed) {p : Value.Entries}
    (hp : p ∈ ps) (hlocation : (location? p).isSome) :
    ∃ t, (Schema.fieldType table registry (some context) (Schema.chain (schema p))).result =
        .ok t ∧
      ∀ d ∈ (Schema.fieldType table registry (some context) (Schema.chain (schema p))).log,
        d ∈ (extractAll table registry context ps).log := by
  induction ps generalizing typed with
  | nil => cases hp
  | cons q qs ih =>
    obtain ⟨first, hfirst, h⟩ := Traced.result_bind_eq_ok.mp h
    obtain ⟨rest, hrest, -⟩ := Traced.result_bind_eq_ok.mp h
    rcases List.mem_cons.mp hp with rfl | hp
    · obtain ⟨location, hsome⟩ := Option.isSome_iff_exists.mp hlocation
      rw [extract, hsome] at hfirst
      obtain ⟨t, ht, -⟩ := Traced.result_bind_eq_ok.mp hfirst
      refine ⟨t, ht, fun d hd => Traced.mem_log_bind.mpr (Or.inl ?_)⟩
      rw [extract, hsome]
      exact Traced.mem_log_bind.mpr (Or.inl hd)
    · obtain ⟨t, ht, hlog⟩ := ih hrest hp
      exact ⟨t, ht, fun d hd => Traced.mem_log_bind.mpr
        (Or.inr ⟨first, hfirst, Traced.mem_log_bind.mpr (Or.inl (hlog d hd))⟩)⟩

end Parameters

namespace Operations

variable {scope : Scope} {e : Entry}

theorem typed_of_extract {found : Found} (h : (e.extract scope).result = .ok found)
    {schema : Value.Entries} (hschema : schema ∈ e.schemas scope.shared) :
    ∃ context t,
      (Schema.fieldType scope.table scope.registry (some context) (Schema.chain schema)).result =
        .ok t ∧
      ∀ d ∈ (Schema.fieldType scope.table scope.registry (some context) (Schema.chain schema)).log,
        d ∈ (e.extract scope).log := by
  obtain ⟨x, -⟩ := extraction_of_extract h
  refine ⟨e.method.title ++ " " ++ x.path, ?_⟩
  have hresult := x.result_eq
  rw [extract_eq x.path_eq]
  rcases List.mem_append.mp hschema with hschema | hschema
  · rw [returnType_of_resultSchema (Option.mem_toList.mp hschema)] at hresult ⊢
    obtain ⟨t, ht, -⟩ := Traced.result_bind_eq_ok.mp hresult
    exact ⟨t, ht, fun d hd =>
      Traced.mem_log_bind.mpr (Or.inl (Traced.mem_log_bind.mpr (Or.inl hd)))⟩
  · obtain ⟨p, hp, rfl⟩ := List.mem_map.mp hschema
    rw [Entry.inlined_eq x.parameters_eq] at hp
    obtain ⟨hp, hlocation⟩ := List.mem_filter.mp hp
    obtain ⟨t, ht, hlog⟩ := Parameters.typed_of_extractAll x.imports_eq hp hlocation
    refine ⟨t, ht, fun d hd => Traced.mem_log_bind.mpr (Or.inr ⟨x.result, hresult, ?_⟩)⟩
    refine Traced.mem_log_bind.mpr (Or.inr ⟨x.parameters, x.parameters_eq, ?_⟩)
    exact Traced.mem_log_bind.mpr (Or.inl (hlog d hd))

/-- An entry lists, as one of its parameters, a reference to a shared parameter that there is not. -/
def Entry.Dangles (shared : Value) (e : Entry) (ref : String) : Prop :=
  ∃ p, .map p ∈ e.listed ∧ ∃ name, Parameters.sharedReference? p = some (ref, name) ∧
    Parameters.sharedObject? shared name = none

theorem schema_of_report {d : Diagnostic} (hd : d ∈ (e.extract scope).log) :
    (∃ ref, e.Dangles scope.shared ref ∧ d = .unresolved ref (some "parameters")) ∨
      ∃ schema ∈ e.schemas scope.shared, ∃ context name,
        Schema.referenceAlong (Schema.spellsArray scope.table) (Schema.chain schema) = some name ∧
          d ∈ Schema.danglingLog scope.table scope.registry context
            (TypeNode.ofString scope.table name) := by
  cases hpath : e.path with
  | str path =>
    rw [extract_eq hpath] at hd
    rcases Traced.mem_log_bind.mp hd with hd | ⟨result, -, hd⟩
    · obtain ⟨schema, hschema, hd⟩ := resultSchema_of_report hd
      obtain ⟨name, halong, hd⟩ := Schema.referenceAlong_of_report hd
      exact Or.inr ⟨schema, List.mem_append_left _ (Option.mem_toList.mpr hschema), _, name,
        halong, hd⟩
    rcases Traced.mem_log_bind.mp hd with hd | ⟨merged, hmerged, hd⟩
    · obtain ⟨v, hv, hd⟩ := Entry.listed_of_report hd
      obtain ⟨p, ref, name, rfl, href, hnone, rfl⟩ := Parameters.reference_of_report hd
      exact Or.inl ⟨ref, ⟨p, hv, name, href, hnone⟩, rfl⟩
    rcases Traced.mem_log_bind.mp hd with hd | ⟨typed, -, hd⟩
    · obtain ⟨p, hp, hlocation, hd⟩ := parameter_of_report hd
      obtain ⟨name, halong, hd⟩ := Schema.referenceAlong_of_report hd
      refine Or.inr ⟨Parameters.schema p, List.mem_append_right _ ?_, _, name, halong, hd⟩
      rw [Entry.inlined_eq hmerged]
      exact List.mem_map_of_mem (List.mem_filter.mpr ⟨hp, hlocation⟩)
    · rcases Traced.mem_log_bind.mp hd with hd | ⟨_, _, hd⟩ <;> cases hd
  | _ =>
    simp only [Entry.extract, hpath] at hd
    cases hd

end Operations

namespace Modules

open Operations (entriesOfDocument scopeOf)

variable {table : TypeTable} {registry : List String} {fields : Value.Entries}

theorem extracted_of_includes {modules : List ApiModule} {log : List Diagnostic}
    (hrun : ofDocument table registry (.map fields) = ⟨.ok modules, log⟩) {e : Operations.Entry}
    (he : Includes fields e) :
    ∃ tag found, (e.extract (scopeOf table registry (.map fields) tag)).result = .ok found ∧
      ∀ d ∈ (e.extract (scopeOf table registry (.map fields) tag)).log, d ∈ log := by
  obtain ⟨hentry, tags, htags, tag, htag, hlists⟩ := he
  have hmodules : (ofDocument table registry (.map fields)).result = .ok modules := by rw [hrun]
  have hlog : (ofDocument table registry (.map fields)).log = log := by rw [hrun]
  simp only [ofDocument, Shape.entries, Traced.bind_eq, Traced.lift_ok_bind, htags] at hmodules hlog
  obtain ⟨m, hm⟩ := Traced.returned_of_each hmodules htag
  obtain ⟨operations, hoperations, -⟩ := Traced.result_bind_eq_ok.mp hm
  obtain ⟨fs, hfs, -⟩ := Operations.ofDocument_eq_ok hoperations
  have hlisted : e ∈ (entriesOfDocument (.map fields)).filter (·.lists tag.1) :=
    List.mem_filter.mpr ⟨hentry, hlists⟩
  obtain ⟨part, -, hpart⟩ := exists_of_forall₂_of_mem hfs.flip hlisted
  refine ⟨tag.1, part, hpart, fun d hd => hlog ▸ ?_⟩
  refine Traced.mem_log_of_each hmodules htag (Traced.mem_log_bind.mpr (Or.inl ?_))
  rw [Operations.log_of_document hoperations]
  exact List.mem_flatMap.mpr ⟨e, hlisted, hd⟩

end Modules

variable {fields : Value.Entries} {c : Client} {log : List Diagnostic}

/-- A reference that is followed, from a property or from a schema of an operation. -/
inductive Follows (table : TypeTable) (fields : Value.Entries) (name : String) : Prop
  | property {owner : String} {i : Nat} {property : Value × Value}
      (place : TwoPass.PropertyAt table (definitionEntries fields) owner i property)
      (along : Schema.referenceAlong Schema.writesArray
        (Schema.chain (TwoPass.schemaFields property.2)) = some name)
  | operation {e : Operations.Entry} {schema : Value.Entries} (entry : Modules.Includes fields e)
      (mem : schema ∈ e.schemas (Modules.sharedOf fields))
      (along : Schema.referenceAlong (Schema.spellsArray table) (Schema.chain schema) = some name)

/-- A name is that of a model, or reported as not found. -/
def Answered (c : Client) (log : List Diagnostic) (n : String) : Prop :=
  n ∈ c.models.map (·.name) ∨ ∃ context, .unresolved n context ∈ log

/-- A name that is imported for a schema. If a reference is reached from the schema, it is a name of
that reference, and answered unless it is only among the arguments. -/
structure ImportedFor (table : TypeTable) (c : Client) (log : List Diagnostic)
    (schema : Value.Entries) (n : String) : Prop where
  external : table.isBase n = false
  typed : ∃ context t, (Schema.fieldType table (c.models.map (·.name)) context
    (Schema.chain schema)).result = .ok t ∧ n ∈ t.names
  referred : ∀ name, Schema.referenceAlong (Schema.spellsArray table) (Schema.chain schema) =
      some name →
    n ∈ (TypeNode.ofString table name).names ∧
      (n ∈ (TypeNode.ofString table name).spine → Answered c log n)

/-- What a report of a name that is not found is about: a shared parameter that an operation refers
to, or the model that a reference is looked up as. -/
inductive ReportOf (table : TypeTable) (fields : Value.Entries) (c : Client) (n : String) :
    Option String → Prop
  | parameter {e : Operations.Entry} (entry : Modules.Includes fields e)
      (dangles : e.Dangles (Modules.sharedOf fields) n) :
      ReportOf table fields c n (some "parameters")
  | model {context : Option String} {name : String} (unregistered : n ∉ c.models.map (·.name))
      (follows : Follows table fields name)
      (innermost : n = (TypeNode.ofString table name).innermost.name) :
      ReportOf table fields c n context

/-- A module that is named after a tag, and imports names only for schemas of the entries that list
the tag. -/
def ImportsUnder (table : TypeTable) (fields : Value.Entries) (c : Client) (log : List Diagnostic)
    (tag : Value × Value) (m : ApiModule) : Prop :=
  Shape.text? tag.1 = some m.name ∧
    ∀ n ∈ m.imports, ∃ e ∈ Operations.entriesOfDocument (.map fields), e.lists tag.1 = true ∧
      ∃ schema ∈ e.schemas (Modules.sharedOf fields), ImportedFor table c log schema n

/-- How the log of a compilation goes with the references that are followed. -/
structure Reported (table : TypeTable) (fields : Value.Entries) (c : Client)
    (log : List Diagnostic) : Prop where
  references : ∀ name, Follows table fields name → ∀ n ∈ (TypeNode.ofString table name).spine,
    table.isBase n = true ∨ Answered c log n
  reports : ∀ n context, .unresolved n context ∈ log → ReportOf table fields c n context
  imports : ∃ tags, Modules.tags fields = .ok tags ∧
    List.Forall₂ (ImportsUnder table fields c log) tags c.modules

section Compilation

variable {table : TypeTable}

theorem answered_of_follows (hrun : compile table (.map fields) = ⟨.ok c, log⟩) {name : String}
    (h : Follows table fields name) :
    table.isBase (TypeNode.ofString table name).innermost.name = true ∨
      Answered c log (TypeNode.ofString table name).innermost.name := by
  obtain ⟨l, m, hmodels, hmodules, -, rfl⟩ := compile_eq_returned.mp hrun
  rw [definitionsOf_of_returned hmodels] at hmodels
  by_cases hknown : (TypeNode.ofString table name).innermost.name ∈ c.models.map (·.name)
  · exact Or.inr (Or.inl hknown)
  cases h with
  | property hplace halong =>
    obtain ⟨source, hsource, -⟩ := TwoPass.type_of_property hmodels hplace
    obtain ⟨k, rfl⟩ := TwoPass.source_of_along halong hsource
    have hwarning := TwoPass.warning_of_property hmodels hplace hsource
    rw [TypeNode.innermost_underArrays] at hwarning
    exact Or.inr (Or.inr ⟨_, List.mem_append_left _ (hwarning hknown)⟩)
  | @operation e schema hentry hschema halong =>
    obtain ⟨tag, found, hfound, hlog⟩ := Modules.extracted_of_includes hmodules hentry
    obtain ⟨context, t, ht, hextract⟩ := Operations.typed_of_extract hfound hschema
    have hdangling := (Schema.fieldType_of_along halong (show (Schema.fieldType table
      (c.models.map (·.name)) (some context) (Schema.chain schema)).result = .ok t from ht)).2
    cases hbase : table.isBase (TypeNode.ofString table name).innermost.name with
    | true => exact Or.inl rfl
    | false =>
      have hreport : .unresolved (TypeNode.ofString table name).innermost.name (some context) ∈
          Schema.danglingLog table (c.models.map (·.name)) (some context)
            (TypeNode.ofString table name) := Schema.mem_danglingLog.mpr ⟨hknown, hbase, rfl⟩
      rw [← hdangling] at hreport
      exact Or.inr (Or.inr ⟨some context, List.mem_append_right _ (hlog _ (hextract _ hreport))⟩)

theorem reportOf_of_mem (hrun : compile table (.map fields) = ⟨.ok c, log⟩) {n : String}
    {context : Option String} (h : .unresolved n context ∈ log) :
    ReportOf table fields c n context := by
  obtain ⟨l, m, hmodels, hmodules, -, rfl⟩ := compile_eq_returned.mp hrun
  rw [definitionsOf_of_returned hmodels] at hmodels
  rcases List.mem_append.mp h with h | h
  · obtain ⟨owner, i, property, target, hplace, htarget, hunknown, heq⟩ :=
      TwoPass.property_of_warning hmodels h rfl
    obtain ⟨rfl, -⟩ := Diagnostic.unresolved.inj heq
    obtain ⟨name, halong, hinnermost⟩ :=
      Schema.referenceAlong_of_target (TwoPass.target_of_typeSource htarget)
    exact .model hunknown (.property hplace halong) (by rw [hinnermost])
  · obtain ⟨tags, htags, tag, htag, e, he, hlists, h⟩ := Modules.entry_of_report hmodules h
    have hentry : Modules.Includes fields e := ⟨he, tags, htags, tag, htag, hlists⟩
    rcases Operations.schema_of_report h with
      ⟨ref, hdangles, heq⟩ | ⟨schema, hschema, _, name, halong, h⟩
    · obtain ⟨rfl, rfl⟩ := Diagnostic.unresolved.inj heq
      exact .parameter hentry hdangles
    · rw [Operations.scopeOf_table] at halong h
      obtain ⟨hunknown, -, heq⟩ := Schema.mem_danglingLog.mp h
      obtain ⟨rfl, -⟩ := Diagnostic.unresolved.inj heq
      exact .model hunknown (.operation hentry hschema halong) rfl

theorem importsUnder_of_tag {tag : Value × Value} {m : ApiModule}
    (hm : (Modules.ofTag table (c.models.map (·.name)) fields tag).result = .ok m)
    (hspine : ∀ e ∈ Operations.entriesOfDocument (.map fields), e.lists tag.1 = true →
      ∀ schema ∈ e.schemas (Modules.sharedOf fields), ∀ name,
        Schema.referenceAlong (Schema.spellsArray table) (Schema.chain schema) = some name →
        ∀ n ∈ (TypeNode.ofString table name).spine, table.isBase n = true ∨ Answered c log n)
    (harray : table.isBase "array" = true) : ImportsUnder table fields c log tag m := by
  obtain ⟨signed, hentries, -, himports⟩ := Modules.signed_of_tag hm
  obtain ⟨-, -, hname, -⟩ := Modules.ofTag_eq_ok hm
  refine ⟨hname, fun n hn => ?_⟩
  obtain ⟨x, hx, hn⟩ := (himports n).mp hn
  obtain ⟨t, ht, hn⟩ := List.mem_flatMap.mp hn
  obtain ⟨hn, hexternal⟩ := TypeNode.mem_externalTypes.mp hn
  obtain ⟨e, he, hlists, hof⟩ := hentries x hx
  obtain ⟨schema, hschema, context, hfield⟩ := Operations.schema_of_tree hof ht
  refine ⟨e, he, hlists, schema, hschema, hexternal, ⟨some context, t, hfield, hn⟩, ?_⟩
  intro name halong
  obtain ⟨k, rfl⟩ := (Schema.fieldType_of_along halong hfield).1
  refine ⟨?_, fun hmem => ?_⟩
  · rcases TypeNode.names_underArrays hn with rfl | hn
    · rw [harray] at hexternal
      cases hexternal
    · exact hn
  · have hbase := hspine e he hlists schema hschema name halong n hmem
    rw [hexternal] at hbase
    exact hbase.resolve_left nofun

end Compilation

/-- A reference that is followed is built in, that of a model, or reported, and so are the arrays
around its innermost element; nothing else is reported but shared parameters. A module imports a
name for a schema of one of its entries, and because of a reference only a name of that reference.
Of the arguments of a reference nothing is said. -/
theorem references_reported (hrun : compile .typeScript (.map fields) = ⟨.ok c, log⟩) :
    Reported .typeScript fields c log := by
  have hspine (name : String) (h : Follows .typeScript fields name) :
      ∀ n ∈ (TypeNode.ofString .typeScript name).spine,
        TypeTable.typeScript.isBase n = true ∨ Answered c log n := by
    intro n hn
    rcases TypeNode.mem_spine hn with rfl | rfl
    · exact Or.inl (by decide)
    · exact answered_of_follows hrun h
  refine ⟨hspine, fun n context => reportOf_of_mem hrun, ?_⟩
  obtain ⟨l, l', hmodels, hmodules, -, rfl⟩ := compile_eq_returned.mp hrun
  obtain ⟨_, tags, hfields, htags, hmodules⟩ :=
    Modules.ofDocument_eq_ok (congrArg Traced.result hmodules)
  obtain rfl := Value.map.inj hfields
  have hlisted := (List.forall₂_and_left tags c.modules).mpr ⟨fun _ htag => htag, hmodules⟩
  refine ⟨tags, htags, hlisted.imp fun tag m ⟨htag, hm⟩ => ?_⟩
  refine importsUnder_of_tag hm (fun e he hlists schema hschema name halong => ?_) (by decide)
  exact hspine name (.operation ⟨he, tags, htags, tag, htag, hlists⟩ hschema halong)

/-- The pets of a page and the result are nowhere defined, and the log names both. -/
theorem references_reported_missing :
    let ref (name : String) : Value := .map [(.str "$ref", .str ("#/definitions/" ++ name))]
    let arrayOf (items : Value) : Value := .map [(.str "type", .str "array"), (.str "items", items)]
    let page : Value := .map [(.str "properties", .map [(.str "pets", arrayOf (ref "List«Pet»"))])]
    let body : Value := .map [(.str "name", .str "page"), (.str "in", .str "body"),
      (.str "schema", ref "Page«Order»")]
    let operation : Value := .map [(.str "tags", .list [.str "order"]),
      (.str "operationId", .str "find"), (.str "parameters", .list [body]),
      (.str "responses", .map [(.str "200", .map [(.str "schema", ref "Result«Order»")])])]
    let fields : Value.Entries := [(.str "definitions", .map [(.str "Page«Order»", page)]),
      (.str "paths", .map [(.str "/orders", .map [(.str "post", operation)])])]
    let models : List Model := [⟨"Page", none, ["Order"], [⟨"pets", "any", false, none⟩]⟩]
    let modules : List ApiModule := [⟨"order", none, [⟨"find", .post, "/orders", none,
      "Result<Order>", [⟨"page", .body, "Page<Order>", false⟩]⟩], ["Result", "Order", "Page"]⟩]
    let c : Client := ⟨models, modules, fields⟩
    let log : List Diagnostic := [.unresolved "Pet" (some "Page.pets"), .modelsRegistered 1 1,
      .unresolved "Result" (some "POST /orders")]
    compile .typeScript (.map fields) = ⟨.ok c, log⟩ ∧ Reported .typeScript fields c log := by
  intro ref arrayOf page body operation fields models modules c log
  have hrun : compile .typeScript (.map fields) = ⟨.ok c, log⟩ :=
    compile_eq_returned.mpr ⟨log.take 2, log.drop 2, by decide +kernel, by decide +kernel,
      source_of_textKeys rfl, rfl⟩
  exact ⟨hrun, references_reported hrun⟩

/-- The arguments of references to pages go without a report: the pets of a property, and the orders
and the tags that the module imports. -/
theorem arguments_unreported :
    let ref (name : String) : Value := .map [(.str "$ref", .str ("#/definitions/" ++ name))]
    let page : Value := .map [(.str "properties", .map [(.str "first", ref "Page«Pet»")])]
    let body : Value := .map [(.str "name", .str "body"), (.str "in", .str "body"),
      (.str "schema", ref "List«Page«Order»,Tag»")]
    let operation : Value := .map [(.str "tags", .list [.str "order"]),
      (.str "operationId", .str "list"), (.str "parameters", .list [body]),
      (.str "responses", .map [(.str "200", .map [(.str "schema", ref "Page«Order»")])])]
    let fields : Value.Entries := [(.str "definitions", .map [(.str "Page«Order»", page)]),
      (.str "paths", .map [(.str "/orders", .map [(.str "get", operation)])])]
    let m : ApiModule := ⟨"order", none, [⟨"list", .get, "/orders", none, "Page<Order>",
      [⟨"body", .body, "Page<Order>[]", false⟩]⟩], ["Page", "Order", "Tag"]⟩
    let c : Client :=
      ⟨[⟨"Page", none, ["Order"], [⟨"first", "Page<Pet>", false, none⟩]⟩], [m], fields⟩
    let log : List Diagnostic := [.modelsRegistered 1 1]
    compile .typeScript (.map fields) = ⟨.ok c, log⟩ ∧
      (∀ reference ∈ [("Page«Pet»", "Pet"), ("Page«Order»", "Order"),
          ("List«Page«Order»,Tag»", "Tag")],
        Follows .typeScript fields reference.1 ∧
          reference.2 ∈ (TypeNode.ofString .typeScript reference.1).names ∧
          TypeTable.typeScript.isBase reference.2 = false ∧ ¬Answered c log reference.2) ∧
      "Order" ∈ m.imports ∧ "Tag" ∈ m.imports := by
  intro ref page body operation fields m c log
  have hrun : compile .typeScript (.map fields) = ⟨.ok c, log⟩ :=
    compile_eq_returned.mpr ⟨log, [], by decide +kernel, by decide +kernel,
      source_of_textKeys rfl, rfl⟩
  let e : Operations.Entry := ⟨.str "/orders", .null, .get, TwoPass.schemaFields operation⟩
  have hentries : Operations.entriesOfDocument (.map fields) = [e] := rfl
  have htags : Modules.tags fields = .ok [(.str "order", .null)] := rfl
  have hentry : Modules.Includes fields e :=
    ⟨by rw [hentries]; exact List.mem_singleton_self e, _, htags, _, List.mem_singleton_self _,
      by decide +kernel⟩
  have hschemas : e.schemas (Modules.sharedOf fields) =
      [TwoPass.schemaFields (ref "Page«Order»"),
        TwoPass.schemaFields (ref "List«Page«Order»,Tag»")] := by with_unfolding_all rfl
  have hfollows (schema : Value.Entries) (hschema : schema ∈ e.schemas (Modules.sharedOf fields))
      (name : String) (halong : Schema.referenceAlong (Schema.spellsArray .typeScript)
        (Schema.chain schema) = some name) : Follows .typeScript fields name :=
    .operation hentry hschema halong
  rw [hschemas, List.forall_mem_cons, List.forall_mem_singleton] at hfollows
  have hpage : TwoPass.declaredName? .typeScript (.str "Page«Order»", page) = some "Page" := by
    decide +kernel
  have hplace : TwoPass.PropertyAt .typeScript (definitionEntries fields) "Page" 0
      (.str "first", ref "Page«Pet»") := by
    refine ⟨.str "Page«Order»", TwoPass.schemaFields page, [(.str "first", ref "Page«Pet»")],
      List.find?_cons_of_pos (by rw [hpage]; rfl), ?_, rfl⟩
    with_unfolding_all rfl
  refine ⟨hrun, ?_, by decide, by decide⟩
  simp only [List.forall_mem_cons]
  refine ⟨⟨.property hplace (by decide +kernel), by decide +kernel, by decide, ?_⟩,
    ⟨hfollows.1 _ (by decide +kernel), by decide +kernel, by decide, ?_⟩,
    ⟨hfollows.2 _ (by decide +kernel), by decide +kernel, by decide, ?_⟩, nofun⟩ <;>
  simp [Answered, c, log]

end ClientCompiler
