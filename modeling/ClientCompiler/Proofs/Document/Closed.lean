import ClientCompiler.Proofs.Document.Entries
import ClientCompiler.Proofs.Document.Independence
import ClientCompiler.Proofs.Document.Properties
import ClientCompiler.Proofs.Document.SharedParameters

/-!
Closed documents. Every reference that is followed is to an object among the definitions, and every
reference to a shared parameter is to an object among these. Nothing is reported, and no property
keeps the type that stands in for a reference.
-/

namespace ClientCompiler

namespace Schema

variable {table : TypeTable}

def definitionName? (s : Value.Entries) : Option String :=
  (Reference.name? (Value.fieldD "$ref" s)).toOption.join

/-- The first reference along a chain, which goes on only below certain schemas. -/
def referenceAlong (goesOn : Value.Entries → Bool) : List Link → Option String
  | .schema s :: rest =>
    match definitionName? s with
    | some name => some name
    | none => if goesOn s then referenceAlong goesOn rest else none
  | _ => none

/-- Below these schemas a property looks for a reference. -/
def writesArray (s : Value.Entries) : Bool := saysArray (Value.fieldD "type" s)

/-- Below these schemas a parameter or a response looks for a reference. -/
def spellsArray (table : TypeTable) (s : Value.Entries) : Bool :=
  (Value.fieldD "type" s).truthy &&
    (TypeNode.ofValue table (Value.fieldD "type" s)).toOption.any fun node =>
      node.isArray && node.generics.isEmpty

theorem definitionName?_of_target? {s : Value.Entries} {found : Option TypeNode}
    (h : Reference.target? table (Value.fieldD "$ref" s) = .ok found) :
    found = (definitionName? s).map (TypeNode.ofString table) := by
  obtain ⟨name, hname, rfl⟩ := map_eq_ok.mp h
  rw [definitionName?, hname]
  rfl

theorem referenceAlong_of_target {c : List Link} {target : TypeNode}
    (h : referenceTarget? table c = .ok (some target)) :
    ∃ name, referenceAlong writesArray c = some name ∧
      target.innermost = (TypeNode.ofString table name).innermost := by
  induction c generalizing target with
  | nil => cases h
  | cons l rest ih =>
    cases l with
    | endless => cases h
    | schema s =>
      obtain ⟨found, hfound, h⟩ := bind_eq_ok.mp h
      obtain rfl := definitionName?_of_target? hfound
      rw [referenceAlong]
      cases hname : definitionName? s with
      | some name =>
        rw [hname] at h
        obtain rfl := Option.some.inj (pure_eq_ok.mp h)
        exact ⟨name, rfl, rfl⟩
      | none =>
        simp only [hname, Option.map_none] at h
        split at h
        · next harray =>
          obtain ⟨below, hbelow, h⟩ := bind_eq_ok.mp h
          obtain ⟨element, rfl, rfl⟩ := Option.map_eq_some_iff.mp (pure_eq_ok.mp h)
          obtain ⟨name, halong, hinnermost⟩ := ih hbelow
          exact ⟨name, (if_pos harray).trans halong,
            (TypeNode.innermost_arrayOf element).trans hinnermost⟩
        · cases pure_eq_ok.mp h

theorem referenceAlong_of_report {registry : List String} {context : Option String}
    {c : List Link} {d : Diagnostic} (h : d ∈ (fieldType table registry context c).log) :
    ∃ name, referenceAlong (spellsArray table) c = some name ∧
      d ∈ danglingLog table registry context (TypeNode.ofString table name) := by
  induction c with
  | nil => cases h
  | cons l rest ih =>
    cases l with
    | endless => cases h
    | schema s =>
      rcases Traced.mem_log_bind.mp h with h | ⟨found, hfound, h⟩
      · cases h
      obtain rfl := definitionName?_of_target? hfound
      rw [referenceAlong]
      cases hname : definitionName? s with
      | some name =>
        rw [hname] at h
        exact ⟨name, rfl, h⟩
      | none =>
        simp only [hname, Option.map_none] at h
        split at h
        · cases h
        next htruthy =>
        rcases Traced.mem_log_bind.mp h with h | ⟨node, hnode, h⟩
        · cases h
        split at h
        · next harray =>
          rw [Bool.and_eq_true] at harray
          have hspells : spellsArray table s = true := by
            have htype : (Value.fieldD "type" s).truthy = true := by simpa using htruthy
            rw [Traced.result_lift] at hnode
            rw [spellsArray, hnode, htype]
            exact harray.1
          rcases Traced.mem_log_bind.mp h with h | ⟨_, _, h⟩
          · obtain ⟨name, halong, hd⟩ := ih h
            exact ⟨name, (if_pos hspells).trans halong, hd⟩
          · cases h
        · cases h

end Schema

namespace TwoPass

variable {table : TypeTable} {kvs : Value.Entries} {models : List Model} {log : List Diagnostic}

/-- A name is the key of an object among the definitions, and spells no array. -/
def Declares (table : TypeTable) (kvs : Value.Entries) (name : String) : Prop :=
  (∃ fields, (.str name, .map fields) ∈ kvs) ∧ (TypeNode.ofString table name).isArray = false

instance (table : TypeTable) (kvs : Value.Entries) (name : String) :
    Decidable (Declares table kvs name) :=
  decidable_of_iff ((kvs.any fun kv => kv.1.isNamed name && kv.2.isMap) = true ∧
    (TypeNode.ofString table name).isArray = false) <| by
    refine and_congr_left fun _ => ?_
    rw [List.any_eq_true]
    constructor
    · rintro ⟨⟨key, v⟩, hmem, h⟩
      rw [Bool.and_eq_true] at h
      cases key with
      | str k =>
        cases v with
        | map fields => exact ⟨fields, eq_of_beq h.1 ▸ hmem⟩
        | _ => cases h.2
      | _ => cases h.1
    · rintro ⟨fields, hmem⟩
      exact ⟨_, hmem, by simp [Value.isNamed, Value.isMap]⟩

/-- The reference along the chain of a schema, if there is one, is declared. -/
def Leads (table : TypeTable) (kvs : Value.Entries) (goesOn : Value.Entries → Bool)
    (schema : Value.Entries) : Prop :=
  ∀ name ∈ Schema.referenceAlong goesOn (Schema.chain schema), Declares table kvs name

instance (table : TypeTable) (kvs : Value.Entries) (goesOn : Value.Entries → Bool)
    (schema : Value.Entries) : Decidable (Leads table kvs goesOn schema) :=
  inferInstanceAs (Decidable (∀ name ∈ Schema.referenceAlong goesOn (Schema.chain schema),
    Declares table kvs name))

theorem registered_of_declares (hrun : modelsOf table (.map kvs) = ⟨.ok models, log⟩)
    {name : String} (h : Declares table kvs name) :
    (TypeNode.ofString table name).innermost.name ∈ models.map (·.name) := by
  obtain ⟨ds, ms, hds, hms, rfl, rfl⟩ := modelsOf_eq_returned.mp hrun
  obtain ⟨⟨fields, hmem⟩, harray⟩ := h
  rw [definitions_eq_mapM, mapM_eq_ok] at hds
  have hobject : (.str name, fields) ∈ kvs.filterMap object? :=
    List.mem_filterMap.mpr ⟨_, hmem, rfl⟩
  obtain ⟨d, hd, hdefinition⟩ := exists_of_forall₂_of_mem hds.flip hobject
  obtain rfl : ⟨.str name, TypeNode.ofString table name, fields⟩ = d := Except.ok.inj hdefinition
  rw [name_of_models hms, TypeNode.innermost_of_not_array harray]
  exact List.mem_eraseDups.mpr (List.mem_map_of_mem hd)

theorem danglingLog_of_declares (hrun : modelsOf table (.map kvs) = ⟨.ok models, log⟩)
    {name : String} (h : Declares table kvs name) (context : Option String) :
    Schema.danglingLog table (models.map (·.name)) context (TypeNode.ofString table name) = [] := by
  have hmem := List.contains_iff_mem.mpr (registered_of_declares hrun h)
  simp only [Schema.danglingLog, hmem, Bool.true_or, if_true]

theorem target_of_typeSource {schema : Value.Entries} {target : TypeNode}
    (h : typeSource table schema = .ok (.reference target)) :
    Schema.referenceTarget? table (Schema.chain schema) = .ok (some target) := by
  obtain ⟨found, hfound, h⟩ := bind_eq_ok.mp h
  cases found with
  | some t =>
    cases pure_eq_ok.mp h
    exact hfound
  | none =>
    obtain ⟨_, _, h⟩ := bind_eq_ok.mp h
    cases pure_eq_ok.mp h

def PropertiesClosed (table : TypeTable) (kvs : Value.Entries) : Prop :=
  ∀ owner i property, PropertyAt table kvs owner i property →
    Leads table kvs Schema.writesArray (schemaFields property.2)

theorem PropertyAt.listed {owner : String} {i : Nat} {property : Value × Value}
    (h : PropertyAt table kvs owner i property) :
    ∃ kv ∈ kvs, property ∈ schemaFields
      (Shape.orEmptyMap (Value.fieldD "properties" (schemaFields kv.2))) := by
  obtain ⟨key, fields, properties, hfind, hentries, hi⟩ := h
  refine ⟨_, List.mem_of_find?_eq_some hfind, ?_⟩
  rw [show schemaFields (.map fields) = fields from rfl, Shape.entries_orEmptyMap hentries]
  exact List.mem_of_getElem? hi

/-- It is enough that the properties of all definitions do so, also of those that are skipped. -/
theorem propertiesClosed_of_forall
    (h : ∀ kv ∈ kvs, ∀ property ∈ schemaFields
        (Shape.orEmptyMap (Value.fieldD "properties" (schemaFields kv.2))),
      Leads table kvs Schema.writesArray (schemaFields property.2)) :
    PropertiesClosed table kvs := by
  intro owner i property hplace
  obtain ⟨kv, hkv, hproperty⟩ := hplace.listed
  exact h kv hkv property hproperty

theorem registered_of_closed (hrun : modelsOf table (.map kvs) = ⟨.ok models, log⟩)
    (hclosed : PropertiesClosed table kvs) {owner : String} {i : Nat} {property : Value × Value}
    {target : TypeNode} (hplace : PropertyAt table kvs owner i property)
    (htarget : typeSource table (schemaFields property.2) = .ok (.reference target)) :
    target.innermost.name ∈ models.map (·.name) := by
  obtain ⟨name, halong, hinnermost⟩ :=
    Schema.referenceAlong_of_target (target_of_typeSource htarget)
  rw [hinnermost]
  exact registered_of_declares hrun (hclosed owner i property hplace name halong)

end TwoPass

namespace Operations

variable {scope : Scope}

def resultSchema? (operation : Value.Entries) : Option Value.Entries :=
  match (Shape.entries (Shape.orEmptyMap (Value.fieldD "responses" operation))).toOption with
  | some responses =>
    match (successResponse responses).map (Value.fieldD "schema") with
    | some (.map schema) => some schema
    | _ => none
  | none => none

theorem resultSchema_of_report {context : String} {operation : Value.Entries} {d : Diagnostic}
    (h : d ∈ (returnType scope context operation).log) :
    ∃ schema, resultSchema? operation = some schema ∧
      d ∈ (Schema.fieldType scope.table scope.registry (some context)
        (Schema.chain schema)).log := by
  rcases Traced.mem_log_bind.mp h with h | ⟨responses, hresponses, h⟩
  · cases h
  rw [Traced.result_lift] at hresponses
  split at h
  · next schema hschema =>
    rcases Traced.mem_log_bind.mp h with h | ⟨_, _, h⟩
    · refine ⟨schema, ?_, h⟩
      simp [resultSchema?, hresponses, Except.toOption, hschema]
    · cases h
  · cases h

def Entry.listed (e : Entry) : List Value :=
  let values (v : Value) : List Value := (Shape.items (Shape.orEmptyList v)).toOption.getD []
  values e.pathParameters ++ values (Value.fieldD "parameters" e.fields)

theorem listed_of_report {v : Value} {d : Diagnostic} (h : d ∈ (parameterList scope v).log) :
    ∃ w ∈ (Shape.items (Shape.orEmptyList v)).toOption.getD [],
      d ∈ (Parameters.dereference scope.shared w).log := by
  rcases Traced.mem_log_bind.mp h with h | ⟨ws, hws, h⟩
  · cases h
  obtain ⟨w, hw, h⟩ := Traced.mem_log_each h
  rw [Traced.result_lift] at hws
  rw [hws]
  exact ⟨w, hw, h⟩

theorem Entry.listed_of_report {e : Entry} {d : Diagnostic} (h : d ∈ (e.parameters scope).log) :
    ∃ v ∈ e.listed, d ∈ (Parameters.dereference scope.shared v).log := by
  rcases Traced.mem_log_bind.mp h with h | ⟨_, _, h⟩
  · obtain ⟨w, hw, h⟩ := Operations.listed_of_report h
    exact ⟨w, List.mem_append_left _ hw, h⟩
  · rcases Traced.mem_log_bind.mp h with h | ⟨_, _, h⟩
    · obtain ⟨w, hw, h⟩ := Operations.listed_of_report h
      exact ⟨w, List.mem_append_right _ hw, h⟩
    · cases h

theorem parameter_of_report {context : String} {params : List Value.Entries} {d : Diagnostic}
    (h : d ∈ (Parameters.extractAll scope.table scope.registry context params).log) :
    ∃ p ∈ params, (Parameters.location? p).isSome ∧
      d ∈ (Schema.fieldType scope.table scope.registry (some context)
        (Schema.chain (Parameters.schema p))).log := by
  induction params with
  | nil => cases h
  | cons p ps ih =>
    rcases Traced.mem_log_bind.mp h with h | ⟨first, _, h⟩
    · unfold Parameters.extract at h
      split at h
      · cases h
      · next location hlocation =>
        refine ⟨p, List.mem_cons_self, by rw [hlocation]; rfl, ?_⟩
        rcases Traced.mem_log_bind.mp h with h | ⟨_, _, h⟩
        · exact h
        · rcases Traced.mem_log_bind.mp h with h | ⟨_, _, h⟩ <;> cases h
    · rcases Traced.mem_log_bind.mp h with h | ⟨_, _, h⟩
      · obtain ⟨q, hq, h⟩ := ih h
        exact ⟨q, List.mem_cons_of_mem p hq, h⟩
      · cases first <;> cases h

/-- The references that are followed from an operation are closed, and so are those to shared
parameters, also where another parameter takes their place. -/
structure Entry.Closed (table : TypeTable) (kvs : Value.Entries) (shared : Value) (e : Entry) :
    Prop where
  result : ∀ schema ∈ resultSchema? e.fields,
    TwoPass.Leads table kvs (Schema.spellsArray table) schema
  parameter : ∀ p ∈ e.inlined ⟨table, [], shared, .null⟩, (Parameters.location? p).isSome →
    TwoPass.Leads table kvs (Schema.spellsArray table) (Parameters.schema p)
  shared : ∀ v ∈ e.listed, ∀ ref ∈ Parameters.sharedReference? (TwoPass.schemaFields v),
    (Parameters.sharedObject? shared ref.2).isSome

instance (table : TypeTable) (kvs : Value.Entries) (shared : Value) (e : Entry) :
    Decidable (e.Closed table kvs shared) :=
  decidable_of_iff (_ ∧ _ ∧ _)
    ⟨fun h => ⟨h.1, h.2.1, h.2.2⟩, fun h => ⟨h.result, h.parameter, h.shared⟩⟩

theorem Entry.Closed.log_extract {kvs : Value.Entries} {e : Entry}
    (h : e.Closed scope.table kvs scope.shared)
    (hknown : ∀ name, TwoPass.Declares scope.table kvs name → ∀ context,
      Schema.danglingLog scope.table scope.registry context
        (TypeNode.ofString scope.table name) = []) :
    (e.extract scope).log = [] := by
  rw [List.eq_nil_iff_forall_not_mem]
  intro d hd
  cases hpath : e.path with
  | str path =>
    rw [extract_eq hpath] at hd
    rcases Traced.mem_log_bind.mp hd with hd | ⟨result, -, hd⟩
    · obtain ⟨schema, hschema, hd⟩ := resultSchema_of_report hd
      obtain ⟨name, halong, hd⟩ := Schema.referenceAlong_of_report hd
      rw [hknown name (h.result schema hschema name halong)] at hd
      cases hd
    rcases Traced.mem_log_bind.mp hd with hd | ⟨merged, hmerged, hd⟩
    · obtain ⟨v, hv, hd⟩ := Entry.listed_of_report hd
      obtain ⟨p, ref, name, rfl, href, hnone, -⟩ := Parameters.reference_of_report hd
      have hobject := h.shared (.map p) hv (ref, name) href
      rw [hnone] at hobject
      cases hobject
    rcases Traced.mem_log_bind.mp hd with hd | ⟨typed, -, hd⟩
    · obtain ⟨p, hp, hlocation, hd⟩ := parameter_of_report hd
      obtain ⟨name, halong, hd⟩ := Schema.referenceAlong_of_report hd
      have hinlined : e.inlined ⟨scope.table, [], scope.shared, .null⟩ = merged := by
        show (e.parameters scope).result.toOption.getD [] = merged
        rw [hmerged]
        rfl
      rw [hknown name (h.parameter p (hinlined ▸ hp) hlocation name halong)] at hd
      cases hd
    · rcases Traced.mem_log_bind.mp hd with hd | ⟨_, _, hd⟩ <;> cases hd
  | _ =>
    simp only [Entry.extract, hpath] at hd
    cases hd

theorem entry_of_report {table : TypeTable} {registry : List String} {fields : Value.Entries}
    {tag : Value} {found : Found} {d : Diagnostic}
    (hrun : (ofDocument table registry (.map fields) tag).result = .ok found)
    (hd : d ∈ (ofDocument table registry (.map fields) tag).log) :
    ∃ e ∈ entriesOfDocument (.map fields), e.lists tag = true ∧
      d ∈ (e.extract (scopeOf table registry (.map fields) tag)).log := by
  rw [log_of_document hrun] at hd
  obtain ⟨e, he, hd⟩ := List.mem_flatMap.mp hd
  obtain ⟨he, hlists⟩ := List.mem_filter.mp he
  exact ⟨e, he, hlists, hd⟩

end Operations

namespace Modules

open Operations (entriesOfDocument scopeOf)

variable {table : TypeTable} {registry : List String} {fields : Value.Entries}

theorem entry_of_report {modules : List ApiModule} {log : List Diagnostic} {d : Diagnostic}
    (hrun : ofDocument table registry (.map fields) = ⟨.ok modules, log⟩) (hd : d ∈ log) :
    ∃ found, tags fields = .ok found ∧ ∃ tag ∈ found, ∃ e ∈ entriesOfDocument (.map fields),
      e.lists tag.1 = true ∧ d ∈ (e.extract (scopeOf table registry (.map fields) tag.1)).log := by
  obtain ⟨kvs, found, hkvs, htags, hmodules⟩ := ofDocument_eq_ok (congrArg Traced.result hrun)
  obtain rfl : fields = kvs := Value.map.inj hkvs
  refine ⟨found, htags, ?_⟩
  have hlog : d ∈ (ofDocument table registry (.map fields)).log := by
    rw [hrun]
    exact hd
  simp only [ofDocument, Shape.entries, Traced.bind_eq, Traced.lift_ok_bind, htags] at hlog
  obtain ⟨tag, htag, hlog⟩ := Traced.mem_log_each hlog
  obtain ⟨m, -, hm⟩ := exists_of_forall₂_of_mem hmodules.flip htag
  refine ⟨tag, htag, ?_⟩
  obtain ⟨operations, hoperations, -⟩ := Traced.result_bind_eq_ok.mp hm
  rcases Traced.mem_log_bind.mp hlog with hlog | ⟨_, _, hlog⟩
  · exact Operations.entry_of_report hoperations hlog
  · rcases Traced.mem_log_bind.mp hlog with hlog | ⟨_, _, hlog⟩ <;> cases hlog

end Modules

variable {table : TypeTable} {fields : Value.Entries} {c : Client} {log : List Diagnostic}

def definitionEntries (fields : Value.Entries) : Value.Entries :=
  match definitionsOf fields with
  | .map kvs => kvs
  | _ => []

/-- All references of a document that are followed lead to objects that it holds. -/
structure Closed (table : TypeTable) (fields : Value.Entries) : Prop where
  properties : TwoPass.PropertiesClosed table (definitionEntries fields)
  operations : ∀ tags, Modules.tags fields = .ok tags → ∀ tag ∈ tags,
    ∀ e ∈ Operations.entriesOfDocument (.map fields), e.lists tag.1 = true →
    e.Closed table (definitionEntries fields)
      (Shape.orEmptyMap (Value.fieldD "parameters" fields))

theorem definitionsOf_of_returned {models : List Model}
    (h : modelsOf table (definitionsOf fields) = ⟨.ok models, log⟩) :
    definitionsOf fields = .map (definitionEntries fields) := by
  unfold definitionEntries
  cases hdefinitions : definitionsOf fields with
  | map kvs => rfl
  | _ =>
    rw [hdefinitions] at h
    cases h

/-- A closed document compiles without a warning, and every property that refers to a model has the
type that its reference names. The order of definitions does not matter to that, nor do references
in a circle, generic names, or an earlier definition of the same name. -/
theorem compile_closed (hclosed : Closed table fields)
    (hrun : compile table (.map fields) = ⟨.ok c, log⟩) :
    (∀ d ∈ log, d.level ≠ .warning) ∧
      ∀ owner i property target,
        TwoPass.PropertyAt table (definitionEntries fields) owner i property →
        TwoPass.typeSource table (TwoPass.schemaFields property.2) = .ok (.reference target) →
        ∃ m ∈ c.models, m.name = owner ∧ ∃ p, m.properties[i]? = some p ∧
          p.name = Shape.textD property.1 ∧ p.type = target.text := by
  obtain ⟨l, m, hmodels, hmodules, -, rfl⟩ := compile_eq_returned.mp hrun
  rw [definitionsOf_of_returned hmodels] at hmodels
  refine ⟨?_, ?_⟩
  · intro d hd hwarning
    rcases List.mem_append.mp hd with hd | hd
    · obtain ⟨owner, i, property, target, hplace, htarget, hunknown, -⟩ :=
        TwoPass.property_of_warning hmodels hd hwarning
      exact hunknown (TwoPass.registered_of_closed hmodels hclosed.properties hplace htarget)
    · obtain ⟨tags, htags, tag, htag, e, he, hlists, hd⟩ := Modules.entry_of_report hmodules hd
      have hentry := hclosed.operations tags htags tag htag e he hlists
      let scope := Operations.scopeOf table (c.models.map (·.name)) (.map fields) tag.1
      have hsilent : (e.extract scope).log = [] :=
        hentry.log_extract fun name hname => TwoPass.danglingLog_of_declares hmodels hname
      rw [hsilent] at hd
      cases hd
  · intro owner i property target hplace htarget
    have hknown := TwoPass.registered_of_closed hmodels hclosed.properties hplace htarget
    obtain ⟨source, hsource, m, hm, howner, p, hp, hname, htype⟩ :=
      TwoPass.type_of_property hmodels hplace
    obtain rfl := Except.ok.inj (hsource.symm.trans htarget)
    exact ⟨m, hm, howner, p, hp, hname, htype.trans (if_pos hknown)⟩

/-- Orders refer to pets after them, to themselves and to a page that is skipped, since a page comes
before it; pets refer back to orders. The operation refers to orders and to a shared limit. -/
theorem compile_closed_orders :
    let ref (name : String) : Value := .map [(.str "$ref", .str ("#/definitions/" ++ name))]
    let arrayOf (items : Value) : Value := .map [(.str "type", .str "array"), (.str "items", items)]
    let object (properties : Value.Entries) : Value := .map [(.str "properties", .map properties)]
    let definitions : Value.Entries := [
      (.str "Order", object [(.str "pet", ref "Pet"), (.str "next", ref "Order"),
        (.str "page", ref "Page«Order»")]),
      (.str "Page«Pet»", object [(.str "pets", arrayOf (ref "Pet"))]),
      (.str "Page«Order»", object []), (.str "Pet", object [(.str "order", ref "Order")])]
    let limit : Value := .map [(.str "name", .str "limit"), (.str "type", .str "integer")]
    let operation : Value.Entries := [(.str "tags", .list [.str "order"]),
      (.str "operationId", .str "list"),
      (.str "parameters", .list [.map [(.str "$ref", .str "#/parameters/Limit")]]),
      (.str "responses", .map [(.str "200", .map [(.str "schema", arrayOf (ref "Order"))])])]
    let fields : Value.Entries := [(.str "definitions", .map definitions),
      (.str "paths", .map [(.str "/orders", .map [(.str "get", .map operation)])]),
      (.str "parameters", .map [(.str "Limit", limit)])]
    let models : List Model := [
      ⟨"Order", none, [], [⟨"pet", "Pet", false, none⟩, ⟨"next", "Order", false, none⟩,
        ⟨"page", "Page<Order>", false, none⟩]⟩,
      ⟨"Page", none, ["Pet"], [⟨"pets", "Pet[]", false, none⟩]⟩,
      ⟨"Pet", none, [], [⟨"order", "Order", false, none⟩]⟩]
    let modules : List ApiModule := [⟨"order", none, [⟨"list", .get, "/orders", none, "Order[]",
      [⟨"limit", .query, "number", false⟩]⟩], ["Order"]⟩]
    let c : Client := ⟨models, modules, fields⟩
    let log : List Diagnostic := [.definitionSkipped "Page«Order»" "Page", .modelsRegistered 3 5]
    Closed .typeScript fields ∧ compile .typeScript (.map fields) = ⟨.ok c, log⟩ ∧
      (∀ d ∈ log, d.level ≠ .warning) ∧
      ∀ owner i property target,
        TwoPass.PropertyAt .typeScript (definitionEntries fields) owner i property →
        TwoPass.typeSource .typeScript (TwoPass.schemaFields property.2) = .ok (.reference target) →
        ∃ m ∈ c.models, m.name = owner ∧ ∃ p, m.properties[i]? = some p ∧
          p.name = Shape.textD property.1 ∧ p.type = target.text := by
  intro ref arrayOf object definitions limit operation fields models modules c log
  have hentries : ∀ e ∈ Operations.entriesOfDocument (.map fields),
      e.Closed .typeScript (definitionEntries fields)
        (Shape.orEmptyMap (Value.fieldD "parameters" fields)) := by decide +kernel
  have hclosed : Closed .typeScript fields :=
    ⟨TwoPass.propertiesClosed_of_forall (by decide +kernel),
      fun _ _ _ _ e he _ => hentries e he⟩
  have hrun : compile .typeScript (.map fields) = ⟨.ok c, log⟩ :=
    compile_eq_returned.mpr ⟨log, [], by decide +kernel, by decide +kernel,
      source_of_textKeys rfl, rfl⟩
  exact ⟨hclosed, hrun, compile_closed hclosed hrun⟩

end ClientCompiler
