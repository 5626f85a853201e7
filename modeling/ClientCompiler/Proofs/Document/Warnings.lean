import ClientCompiler.Proofs.Document.Destinations
import ClientCompiler.Proofs.Document.Routes
import ClientCompiler.Proofs.Document.TwoPass

/-!
What is told of the operations of a tag. Each entry asks for the reference at the end of its result,
for every shared parameter that it lists, and for the reference at the end of each parameter of
known location that a merge keeps. The log names those that are asked for in vain, in this order,
and the types go on without a change.
-/

namespace ClientCompiler

namespace Schema

variable {table : TypeTable} {registry : List String} {context : String} {schema : Value.Entries}

/-- The name that the reference at the end of a chain asks for in vain: that of its innermost
element, if no model has it and it is not built in. -/
def missing? (table : TypeTable) (registry : List String) (schema : Value.Entries) :
    Option String :=
  ((referenceAlong (spellsArray table) (chain schema)).map fun name =>
    (TypeNode.ofString table name).innermost.name).filter fun wanted =>
      !(registry.contains wanted || table.isBase wanted)

theorem log_fieldType {t : TypeNode}
    (h : (fieldType table registry (some context) (chain schema)).result = .ok t) :
    (fieldType table registry (some context) (chain schema)).log =
      (missing? table registry schema).toList.map (.unresolved · (some context)) := by
  rw [missing?]
  cases halong : referenceAlong (spellsArray table) (chain schema) with
  | some name =>
    rw [(fieldType_of_along halong h).2, Option.map_some, Option.filter_some, danglingLog]
    cases registry.contains (TypeNode.ofString table name).innermost.name ||
      table.isBase (TypeNode.ofString table name).innermost.name <;> rfl
  | none =>
    refine List.eq_nil_iff_forall_not_mem.mpr fun d hd => ?_
    obtain ⟨name, hname, -⟩ := referenceAlong_of_report hd
    rw [halong] at hname
    cases hname

/-- A type keeps the name of the reference at the end of a chain, under the arrays on the way. -/
def KeepsName (table : TypeTable) (schema : Value.Entries) (type : String) : Prop :=
  ∀ name, referenceAlong (spellsArray table) (chain schema) = some name →
    ∃ k, type = (TypeNode.underArrays k (TypeNode.ofString table name)).text

theorem keepsName_of_fieldType {context : Option String} {t : TypeNode}
    (h : (fieldType table registry context (chain schema)).result = .ok t) :
    KeepsName table schema t.text := by
  intro name halong
  obtain ⟨k, rfl⟩ := (fieldType_of_along halong h).1
  exact ⟨k, rfl⟩

end Schema

namespace Parameters

variable {table : TypeTable} {registry : List String} {context : String} {shared v : Value}

def lost? (shared v : Value) : Option String :=
  (sharedReference? (TwoPass.schemaFields v)).bind fun (ref, name) =>
    if (sharedObject? shared name).isSome then none else some ref

def standsFor (shared v : Value) : Value.Entries :=
  match sharedReference? (TwoPass.schemaFields v) with
  | some (_, name) => (sharedObject? shared name).getD []
  | none => TwoPass.schemaFields v

theorem returned_of_dereference {p : Value.Entries} (h : (dereference shared v).result = .ok p) :
    p = standsFor shared v ∧ (dereference shared v).log =
      (lost? shared v).toList.map (.unresolved · (some "parameters")) := by
  cases v with
  | map kvs =>
    rw [standsFor, lost?, TwoPass.schemaFields]
    cases href : sharedReference? kvs with
    | none =>
      rw [dereference_of_plain href] at h ⊢
      exact ⟨(Except.ok.inj h).symm, rfl⟩
    | some found =>
      obtain ⟨ref, name⟩ := found
      rw [dereference_of_reference href] at h ⊢
      by_cases hmap : shared.isMap = true
      · rw [if_pos hmap] at h ⊢
        cases hobject : sharedObject? shared name with
        | some target =>
          rw [hobject] at h
          exact ⟨by simp [hobject, ← Except.ok.inj h], by simp [hobject]⟩
        | none =>
          rw [hobject] at h
          exact ⟨by simp [hobject, ← Except.ok.inj h], by simp [hobject]⟩
      · rw [if_neg hmap] at h
        cases h
  | _ => exact ⟨(Except.ok.inj h).symm, rfl⟩

theorem log_extract {p : Value.Entries} {r : Option (Parameter × List String)}
    (h : (extract table registry context p).result = .ok r) :
    (extract table registry context p).log =
      if (location? p).isSome then
        (Schema.missing? table registry (schema p)).toList.map (.unresolved · (some context))
      else [] := by
  unfold extract at h ⊢
  cases hlocation : location? p with
  | none => rfl
  | some location =>
    simp only [hlocation, Traced.bind_eq] at h ⊢
    obtain ⟨node, hnode, h⟩ := Traced.result_bind_eq_ok.mp h
    obtain ⟨⟨⟩, haccept, -⟩ := Traced.result_bind_eq_ok.mp h
    rw [Traced.log_bind hnode, Schema.log_fieldType hnode, Traced.log_bind haccept]
    exact List.append_nil _

theorem log_extractAll {ps : List Value.Entries} {typed : List Parameter × List String}
    (h : (extractAll table registry context ps).result = .ok typed) :
    (extractAll table registry context ps).log =
      ((ps.filter fun p => (location? p).isSome).filterMap fun p =>
        Schema.missing? table registry (schema p)).map (.unresolved · (some context)) := by
  induction ps generalizing typed with
  | nil => rfl
  | cons p ps ih =>
    obtain ⟨first, hfirst, h⟩ := Traced.result_bind_eq_ok.mp h
    obtain ⟨rest, hrest, h⟩ := Traced.result_bind_eq_ok.mp h
    have hlast : (extractAll table registry context (p :: ps)).log =
        (extract table registry context p).log ++ (extractAll table registry context ps).log := by
      rw [extractAll, Traced.bind_eq, Traced.log_bind hfirst, Traced.bind_eq, Traced.log_bind hrest]
      cases first <;> exact congrArg _ (List.append_nil _)
    rw [hlast, ih hrest, log_extract hfirst]
    cases hknown : (location? p).isSome with
    | false => rw [List.filter_cons_of_neg (by simp [hknown])]; rfl
    | true =>
      rw [List.filter_cons_of_pos (by exact hknown), if_pos rfl, List.filterMap_cons]
      cases Schema.missing? table registry (schema p) <;> rfl

theorem ReadAs.keepsName {p : Value.Entries} {r : Parameter} (h : ReadAs table registry p r) :
    Schema.KeepsName table (schema p) r.type := by
  obtain ⟨context, names, h⟩ := h
  unfold extract at h
  split at h
  · cases h
  · obtain ⟨node, hnode, h⟩ := Traced.result_bind_eq_ok.mp h
    obtain ⟨_, -, h⟩ := Traced.result_bind_eq_ok.mp h
    obtain ⟨rfl, -⟩ := Prod.mk.inj (Option.some.inj (Except.ok.inj h))
    exact Schema.keepsName_of_fieldType hnode

end Parameters

namespace Operations

variable {scope : Scope} {e : Entry}

def listedIn (v : Value) : List Value := (Shape.items (Shape.orEmptyList v)).toOption.getD []

theorem Entry.listed_eq (e : Entry) :
    e.listed = listedIn e.pathParameters ++ listedIn (Value.fieldD "parameters" e.fields) := rfl

def Entry.merged (shared : Value) (e : Entry) : List Value.Entries :=
  Parameters.mergeKeyed ((listedIn e.pathParameters).map (Parameters.standsFor shared))
    ((listedIn (Value.fieldD "parameters" e.fields)).map (Parameters.standsFor shared))

theorem returned_of_parameterList {v : Value} {ps : List Value.Entries}
    (h : (parameterList scope v).result = .ok ps) :
    ps = (listedIn v).map (Parameters.standsFor scope.shared) ∧
      (parameterList scope v).log = ((listedIn v).filterMap (Parameters.lost? scope.shared)).map
        (.unresolved · (some "parameters")) := by
  obtain ⟨listed, hlisted, heach⟩ := Traced.result_bind_eq_ok.mp h
  rw [parameterList, Traced.bind_eq, Traced.log_bind hlisted, Traced.log_lift, List.nil_append,
    Traced.log_each heach]
  have hlistedIn : listedIn v = listed := by
    rw [listedIn, show Shape.items (Shape.orEmptyList v) = .ok listed from hlisted]
    rfl
  rw [hlistedIn]
  rw [Traced.result_each, mapM_eq_ok] at heach
  clear h hlisted hlistedIn
  induction heach with
  | nil => exact ⟨rfl, rfl⟩
  | cons hp _ ih =>
    obtain ⟨rfl, hlog⟩ := Parameters.returned_of_dereference hp
    rw [List.map_cons, ← ih.1, List.flatMap_cons, ih.2, hlog, List.filterMap_cons]
    exact ⟨rfl, by cases Parameters.lost? scope.shared _ <;> rfl⟩

theorem Entry.returned_of_parameters {merged : List Value.Entries}
    (h : (e.parameters scope).result = .ok merged) :
    merged = e.merged scope.shared ∧ (e.parameters scope).log =
      (e.listed.filterMap (Parameters.lost? scope.shared)).map
        (.unresolved · (some "parameters")) := by
  obtain ⟨inherited, hinherited, h⟩ := Traced.result_bind_eq_ok.mp h
  obtain ⟨own, hown, h⟩ := Traced.result_bind_eq_ok.mp h
  obtain ⟨-, -, rfl⟩ := Parameters.merge_eq_ok.mp h
  obtain ⟨rfl, hlog⟩ := returned_of_parameterList hinherited
  obtain ⟨rfl, hlog'⟩ := returned_of_parameterList hown
  refine ⟨rfl, ?_⟩
  rw [Entry.parameters, Traced.bind_eq, Traced.log_bind hinherited, Traced.bind_eq,
    Traced.log_bind hown, Traced.log_lift, hlog, hlog', Entry.listed_eq, List.filterMap_append,
    List.map_append, List.append_nil]

theorem log_returnType {context : String} {operation : Value.Entries} {result : Option TypeNode}
    (h : (returnType scope context operation).result = .ok result) :
    (returnType scope context operation).log =
      ((resultSchema? operation).bind (Schema.missing? scope.table scope.registry)).toList.map
        (.unresolved · (some context)) := by
  cases hschema : resultSchema? operation with
  | some schema =>
    rw [returnType_of_resultSchema hschema] at h ⊢
    obtain ⟨t, ht, -⟩ := Traced.result_bind_eq_ok.mp h
    rw [Traced.log_bind ht, Schema.log_fieldType ht]
    exact List.append_nil _
  | none =>
    refine List.eq_nil_iff_forall_not_mem.mpr fun d hd => ?_
    obtain ⟨schema, hsome, -⟩ := resultSchema_of_report hd
    rw [hschema] at hsome
    cases hsome

def Entry.place (e : Entry) : String := e.method.title ++ " " ++ Shape.textD e.path

def notFound (place name : String) : Level × String :=
  (.warning, s!"{name} not found (referenced from {place})")

/-- What is told of an entry: of its result first, of the shared parameters that it lists, and of
the parameters that are sent. -/
def Entry.warnings (scope : Scope) (e : Entry) : List (Level × String) :=
  let missing? := Schema.missing? scope.table scope.registry
  let sent := (e.merged scope.shared).filter fun p => (Parameters.location? p).isSome
  ((resultSchema? e.fields).bind missing?).toList.map (notFound e.place) ++
    (e.listed.filterMap (Parameters.lost? scope.shared)).map (notFound "parameters") ++
    (sent.filterMap fun p => missing? (Parameters.schema p)).map (notFound e.place)

theorem record_unresolved {name place : String} (h : place ≠ "") :
    TwoPass.record (.unresolved name (some place)) = notFound place name := by
  have hplace : place.isEmpty = false := by
    rw [← Bool.not_eq_true, String.isEmpty_iff]
    exact h
  unfold TwoPass.record Diagnostic.level Diagnostic.message Diagnostic.unresolvedMessage
  simp [hplace, notFound]

theorem map_record_unresolved {place : String} (h : place ≠ "") (names : List String) :
    (names.map (.unresolved · (some place))).map TwoPass.record = names.map (notFound place) := by
  rw [List.map_map]
  exact List.map_congr_left fun name _ => record_unresolved h

theorem Entry.place_ne_empty (e : Entry) : e.place ≠ "" := by
  rw [Entry.place, ne_eq, String.append_eq_empty_iff, String.append_eq_empty_iff]
  intro h
  exact absurd h.1.2 (by decide)

theorem Entry.map_record_extract {found : Found} (h : (e.extract scope).result = .ok found) :
    (e.extract scope).log.map TwoPass.record = e.warnings scope := by
  obtain ⟨x, -⟩ := extraction_of_extract h
  obtain ⟨hmerged, hlisted⟩ := Entry.returned_of_parameters x.parameters_eq
  have hplace : e.method.title ++ " " ++ x.path = e.place := by
    rw [Entry.place, x.path_eq]
    rfl
  have hlast (typed : List Parameter × List String) :
      (assembled scope x.path e.method e.fields x.result typed).log = [] := by
    rw [assembled, List.eq_nil_iff_forall_not_mem]
    intro d hd
    rcases Traced.mem_log_bind.mp hd with hd | ⟨_, -, hd⟩ <;> cases hd
  rw [extract_eq x.path_eq, Traced.log_bind x.result_eq, log_returnType x.result_eq,
    Traced.log_bind x.parameters_eq, hlisted, Traced.log_bind x.imports_eq,
    Parameters.log_extractAll x.imports_eq, hlast, hmerged, hplace, List.append_nil,
    List.map_append, List.map_append, map_record_unresolved e.place_ne_empty,
    map_record_unresolved e.place_ne_empty, map_record_unresolved (by decide), ← List.append_assoc]
  rfl

/-- An operation is that of an entry, and its types keep the names that the entry refers to. -/
structure Entry.KeepsNames (scope : Scope) (e : Entry) (o : Operation) : Prop where
  method : o.method = e.method
  path : ∃ path, e.path = .str path ∧ o.path = Path.interpolate path
  result : ∀ schema, resultSchema? e.fields = some schema →
    Schema.KeepsName scope.table schema o.returnType
  parameters : List.Forall₂ (fun p q => Schema.KeepsName scope.table (Parameters.schema p) q.type)
    ((e.merged scope.shared).filter fun p => (Parameters.location? p).isSome) o.parameters

theorem Entry.keepsNames_of_extract {found : Found} (h : (e.extract scope).result = .ok found) :
    ∃ o, found.operations = [o] ∧ e.KeepsNames scope o := by
  obtain ⟨x, rfl⟩ := extraction_of_extract h
  obtain ⟨hmerged, -⟩ := Entry.returned_of_parameters x.parameters_eq
  refine ⟨x.operation, rfl, x.method, ⟨x.path, x.path_eq, x.operation_path⟩, ?_, ?_⟩
  · intro schema hschema
    have hresult := x.result_eq
    rw [returnType_of_resultSchema hschema] at hresult
    obtain ⟨t, ht, hresult⟩ := Traced.result_bind_eq_ok.mp hresult
    rw [x.returnType, ← Except.ok.inj hresult]
    exact Schema.keepsName_of_fieldType ht
  · rw [← hmerged]
    exact (Parameters.readAs_of_extractAll x.imports_eq).imp fun _ _ hread => hread.keepsName

theorem told_of_entries {entries : List Entry} {fs : List Found}
    (h : List.Forall₂ (fun e f => (e.extract scope).result = .ok f) entries fs) :
    (entries.flatMap fun e => (e.extract scope).log).map TwoPass.record =
        entries.flatMap (Entry.warnings scope) ∧
      List.Forall₂ (Entry.KeepsNames scope) entries (Found.concat fs).operations := by
  induction h with
  | nil => exact ⟨rfl, .nil⟩
  | cons hf _ ih =>
    obtain ⟨o, ho, hkeeps⟩ := Entry.keepsNames_of_extract hf
    rw [List.flatMap_cons, List.map_append, Entry.map_record_extract hf, ih.1, Found.concat_cons,
      Found.append, ho]
    exact ⟨rfl, .cons hkeeps ih.2⟩

/-- What is told of the operations of a tag is what is told of each of its entries, in the order of
the document. The types of the operations keep the names that are not found. -/
theorem warnings_of_document {table : TypeTable} {registry : List String} {document tag : Value}
    {found : Found} {log : List Diagnostic}
    (hrun : ofDocument table registry document tag = ⟨.ok found, log⟩) :
    let scope := scopeOf table registry document tag
    let entries := (entriesOfDocument document).filter (·.lists tag)
    log.map TwoPass.record = entries.flatMap (Entry.warnings scope) ∧
      List.Forall₂ (Entry.KeepsNames scope) entries found.operations := by
  intro scope entries
  have hresult : (ofDocument table registry document tag).result = .ok found := by rw [hrun]
  have hlog := log_of_document hresult
  rw [hrun] at hlog
  obtain ⟨fs, hfs, rfl⟩ := ofDocument_eq_ok hresult
  rw [show log = entries.flatMap fun e => (e.extract scope).log from hlog]
  exact told_of_entries hfs

/-- The operation replaces the shared limit, whose type is not asked for then, and neither is that
of the token, which is sent nowhere that is known. Nothing is told of the other operation. -/
theorem warnings_of_document_pets :
    let ref (kind name : String) : Value := .map [(.str "$ref", .str ("#/" ++ kind ++ "/" ++ name))]
    let arrayOf (items : Value) : Value := .map [(.str "type", .str "array"), (.str "items", items)]
    let param (name location : String) (schema : Value) : Value :=
      .map [(.str "name", .str name), (.str "in", .str location), (.str "schema", schema)]
    let shared : Value := .map [(.str "Limit", param "limit" "query" (ref "definitions" "Limit"))]
    let inherited : Value := .list [ref "parameters" "Gone", ref "parameters" "Limit",
      param "trace" "header" (ref "definitions" "Trace")]
    let find : Value := .map [(.str "tags", .list [.str "pet"]), (.str "operationId", .str "find"),
      (.str "responses", .map [(.str "200",
        .map [(.str "schema", arrayOf (arrayOf (ref "definitions" "Page«Pet»")))])]),
      (.str "parameters", .list [ref "parameters" "Lost",
        param "limit" "query" (.map [(.str "type", .str "integer")]),
        param "token" "matrix" (ref "definitions" "Token"),
        param "body" "body" (arrayOf (ref "definitions" "Filter")),
        param "pet" "formData" (ref "definitions" "Pet")])]
    let save : Value := .map [(.str "tags", .list [.str "store"]),
      (.str "parameters", .list [ref "parameters" "Lost"])]
    let document : Value := .map [(.str "parameters", shared), (.str "paths",
      .map [(.str "/pets", .map [(.str "parameters", inherited), (.str "get", find),
        (.str "post", save)])])]
    let o : Operation := ⟨"find", .get, "/pets", none, "Page<Pet>[][]",
      [⟨"trace", .header, "Trace", false⟩, ⟨"limit", .query, "number", false⟩,
        ⟨"body", .body, "Filter[]", false⟩, ⟨"pet", .formData, "Pet", false⟩]⟩
    let found : Found := ⟨[o], ["Page", "Pet", "Trace", "Filter", "Pet"]⟩
    let log : List Diagnostic := [.unresolved "Page" (some "GET /pets"),
      .unresolved "#/parameters/Gone" (some "parameters"),
      .unresolved "#/parameters/Lost" (some "parameters"),
      .unresolved "Trace" (some "GET /pets"), .unresolved "Filter" (some "GET /pets")]
    let scope := scopeOf .typeScript ["Pet"] document (.str "pet")
    let entries := (entriesOfDocument document).filter (·.lists (.str "pet"))
    ofDocument .typeScript ["Pet"] document (.str "pet") = ⟨.ok found, log⟩ ∧
      log.map TwoPass.record = entries.flatMap (Entry.warnings scope) ∧
      List.Forall₂ (Entry.KeepsNames scope) entries [o] := by
  intro ref arrayOf param shared inherited find save document o found log scope entries
  have hrun : ofDocument .typeScript ["Pet"] document (.str "pet") = ⟨.ok found, log⟩ := by
    decide +kernel
  exact ⟨hrun, warnings_of_document hrun⟩

end Operations
end ClientCompiler
