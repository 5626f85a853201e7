import ClientCompiler.Proofs.Distinct
import ClientCompiler.Proofs.Document.Entries
import ClientCompiler.Proofs.Types.Names

/-!
Imports and stored types. A module stores the types of its operations as texts only, and its imports
were collected from the trees before these were written out. For every operation there are the trees
of its result and of its parameters, and the imports are the names of all these trees.
-/

namespace ClientCompiler

/-- The types of an operation as trees. -/
structure Signature where
  result : Option TypeNode
  parameters : List TypeNode

namespace Signature

/-- The trees in the order in which their names are imported. -/
def trees (s : Signature) : List TypeNode := s.result.toList ++ s.parameters

def externalTypes (table : TypeTable) (s : Signature) : List String :=
  s.trees.flatMap (TypeNode.externalTypes table)

def printedNames (s : Signature) : List String := s.trees.flatMap TypeNode.printedNames

/-- The types that an entry declares and that its operation stores as texts. A parameter of unknown
location has no tree, and neither has a result of which nothing is said. -/
structure Of (scope : Operations.Scope) (e : Operations.Entry) (s : Signature) (op : Operation) :
    Prop where
  result : ∃ context, (Operations.returnType scope context e.fields).result = .ok s.result
  parameters : ∃ context merged, (e.parameters scope).result = .ok merged ∧
    List.Forall₂
      (fun p t => (Schema.fieldType scope.table scope.registry (some context)
        (Schema.chain (Parameters.schema p))).result = .ok t)
      (merged.filter fun p => (Parameters.location? p).isSome) s.parameters
  returnType_text : op.returnType = (s.result.map TypeNode.text).getD ""
  returnType_empty : op.returnType = "" ↔ s.result = none
  parameters_text : op.parameters.map Parameter.type = s.parameters.map TypeNode.text

end Signature

namespace Schema

variable {table : TypeTable} {registry : List String} {context : Option String}

theorem name_of_target? {v : Value} {t : TypeNode} (h : Reference.target? table v = .ok (some t)) :
    t.name ≠ "" := by
  obtain ⟨name, _, hname⟩ := map_eq_ok.mp h
  obtain ⟨s, rfl, rfl⟩ := Option.map_eq_some_iff.mp hname
  exact TypeNode.name_ofString_ne_empty table s

theorem name_of_ofValue {v : Value} {t : TypeNode} (h : TypeNode.ofValue table v = .ok t) :
    t.name ≠ "" := by
  unfold TypeNode.ofValue at h
  split at h
  · next s =>
    rw [← Except.ok.inj h]
    exact TypeNode.name_ofString_ne_empty table s
  · split at h
    · rw [← Except.ok.inj h]
      decide
    · cases h
  · split at h
    · cases h
    · rw [← Except.ok.inj h]
      decide

theorem name_of_fieldType {c : List Link} {t : TypeNode}
    (h : (fieldType table registry context c).result = .ok t) : t.name ≠ "" := by
  cases c with
  | nil =>
    rw [← Except.ok.inj h]
    decide
  | cons l rest =>
    cases l with
    | endless => cases h
    | schema s =>
      rw [fieldType, Traced.bind_eq, Traced.result_bind_eq_ok] at h
      obtain ⟨target, htarget, h⟩ := h
      cases target with
      | some u =>
        rw [← Except.ok.inj h]
        exact name_of_target? htarget
      | none =>
        simp only [] at h
        split at h
        · rw [← Except.ok.inj h]
          exact TypeNode.name_ofString_ne_empty table "any"
        · rw [Traced.bind_eq, Traced.result_bind_eq_ok] at h
          obtain ⟨node, hnode, h⟩ := h
          split at h
          · rw [Traced.bind_eq, Traced.result_bind_eq_ok] at h
            obtain ⟨element, _, h⟩ := h
            rw [← Except.ok.inj h]
            simp [TypeNode.arrayOf]
          · rw [← Except.ok.inj h]
            exact name_of_ofValue hnode

end Schema

namespace Parameters

variable {table : TypeTable} {registry : List String} {context : String}

theorem extractAll_eq_ok {ps : List Value.Entries} {kept : List Parameter} {imports : List String}
    (h : (extractAll table registry context ps).result = .ok (kept, imports)) :
    ∃ ts, List.Forall₂
        (fun p t => (Schema.fieldType table registry (some context)
          (Schema.chain (schema p))).result = .ok t)
        (ps.filter fun p => (location? p).isSome) ts ∧
      kept.map Parameter.type = ts.map TypeNode.text ∧
      imports = ts.flatMap (TypeNode.externalTypes table) := by
  induction ps generalizing kept imports with
  | nil =>
    obtain ⟨rfl, rfl⟩ := Prod.mk.inj (Except.ok.inj h)
    exact ⟨[], .nil, rfl, rfl⟩
  | cons p ps ih =>
    rw [extractAll, Traced.bind_eq, Traced.result_bind_eq_ok] at h
    obtain ⟨first, hfirst, h⟩ := h
    rw [Traced.bind_eq, Traced.result_bind_eq_ok] at h
    obtain ⟨⟨others, names⟩, hrest, h⟩ := h
    obtain ⟨ts, hts, hkept, rfl⟩ := ih hrest
    unfold extract at hfirst
    cases hlocation : location? p with
    | none =>
      simp only [hlocation] at hfirst
      obtain rfl := Except.ok.inj hfirst
      obtain ⟨rfl, rfl⟩ := Prod.mk.inj (Except.ok.inj h)
      rw [List.filter_cons_of_neg (by simp [hlocation])]
      exact ⟨ts, hts, hkept, rfl⟩
    | some location =>
      simp only [hlocation, Traced.bind_eq, Traced.result_bind_eq_ok] at hfirst
      obtain ⟨node, hnode, _, _, hfirst⟩ := hfirst
      obtain rfl := Except.ok.inj hfirst
      obtain ⟨rfl, rfl⟩ := Prod.mk.inj (Except.ok.inj h)
      rw [List.filter_cons_of_pos (by simp [hlocation])]
      exact ⟨node :: ts, .cons hnode hts, by rw [List.map_cons, List.map_cons, hkept],
        by rw [List.flatMap_cons]⟩

end Parameters

namespace Operations

variable {scope : Scope}

theorem name_of_returnType {context : String} {fields : Value.Entries} {t : TypeNode}
    (h : (returnType scope context fields).result = .ok (some t)) : t.name ≠ "" := by
  rw [returnType, Traced.bind_eq, Traced.result_bind_eq_ok] at h
  obtain ⟨responses, _, h⟩ := h
  split at h
  · rw [Traced.bind_eq, Traced.result_bind_eq_ok] at h
    obtain ⟨node, hnode, h⟩ := h
    obtain rfl := Option.some.inj (Except.ok.inj h)
    exact Schema.name_of_fieldType hnode
  · cases h

/-- An entry gives one operation, and trees for its types whose names are the imports. -/
theorem signature_of_extract {e : Entry} {found : Found}
    (h : (e.extract scope).result = .ok found) :
    ∃ s op, found = ⟨[op], s.externalTypes scope.table⟩ ∧ Signature.Of scope e s op := by
  obtain ⟨x, rfl⟩ := extraction_of_extract h
  obtain ⟨ts, hts, htexts, himports⟩ := Parameters.extractAll_eq_ok x.imports_eq
  refine ⟨⟨x.result, ts⟩, x.operation, ?_, ⟨_, x.result_eq⟩, ⟨_, x.parameters, x.parameters_eq, hts⟩,
    x.returnType, ?_, htexts⟩
  · rw [Entry.Extraction.found, himports]
    cases x.result <;> simp [Signature.externalTypes, Signature.trees]
  · have hresult := x.result_eq
    rw [x.returnType]
    cases hreturn : x.result with
    | none => simp
    | some t =>
      rw [hreturn] at hresult
      simpa using TypeNode.text_ne_empty (name_of_returnType hresult)

theorem signatures_of_entries {entries : List Entry} {fs : List Found}
    (h : List.Forall₂ (fun e f => (e.extract scope).result = .ok f) entries fs) :
    ∃ signed : List (Signature × Operation),
      List.Forall₂ (fun e x => Signature.Of scope e x.1 x.2) entries signed ∧
        (Found.concat fs).operations = signed.map Prod.snd ∧
        (Found.concat fs).imports = signed.flatMap fun x => x.1.externalTypes scope.table := by
  induction h with
  | nil => exact ⟨[], .nil, rfl, rfl⟩
  | @cons e f entries fs hf _ ih =>
    obtain ⟨signed, hsigned, hoperations, himports⟩ := ih
    obtain ⟨s, op, rfl, hs⟩ := signature_of_extract hf
    refine ⟨(s, op) :: signed, .cons hs hsigned, ?_, ?_⟩
    · rw [Found.concat_cons, Found.append, hoperations, List.map_cons, List.singleton_append]
    · rw [Found.concat_cons, Found.append, himports, List.flatMap_cons]

end Operations

namespace Modules

open Operations (entriesOfDocument scopeOf)

variable {table : TypeTable} {registry : List String}

structure ImportsSigned (table : TypeTable) (registry : List String) (document : Value)
    (m : ApiModule) (tag : Value) (signed : List (Signature × Operation)) : Prop where
  name : Shape.text? tag = some m.name
  signatures : List.Forall₂ (fun e x => Signature.Of (scopeOf table registry document tag) e x.1 x.2)
    ((entriesOfDocument document).filter (·.lists tag)) signed
  operations : m.operations = signed.map Prod.snd
  imports : m.imports = (signed.flatMap fun x => x.1.externalTypes table).eraseDups
  nodup : m.imports.Nodup
  external : ∀ n ∈ m.imports, table.isBase n = false
  printed : table.isBase "any" = true → ∀ x ∈ signed, ∀ n ∈ x.1.printedNames,
    table.isBase n = true ∨ n ∈ m.imports

/-- The imports of a module are the names of the trees behind the stored types of its operations,
each once and in the order of first occurrence. So no built-in name is imported, a parameter of
unknown location imports nothing, and if `any` is built in, every name that a stored type shows is
built in or imported. -/
theorem imports_of_module {document : Value} {modules : List ApiModule} {m : ApiModule}
    (hrun : (ofDocument table registry document).result = .ok modules) (hm : m ∈ modules) :
    ∃ tag signed, ImportsSigned table registry document m tag signed := by
  obtain ⟨fields, found, rfl, -, hmodules⟩ := ofDocument_eq_ok hrun
  obtain ⟨tag, -, htag⟩ := exists_of_forall₂_of_mem hmodules hm
  obtain ⟨fs, hfs, hname, -, -, hoperations, himports⟩ := ofTag_eq_ok htag
  obtain ⟨signed, hsigned, hsignedops, hnames⟩ := Operations.signatures_of_entries hfs
  rw [Operations.scopeOf_table] at hnames
  rw [hsignedops] at hoperations
  rw [hnames, dedupe_eq_eraseDups] at himports
  have hmem (n : String) : n ∈ m.imports ↔ ∃ x ∈ signed, n ∈ x.1.externalTypes table := by
    rw [himports, List.mem_eraseDups, List.mem_flatMap]
  refine ⟨tag.1, signed, hname, hsigned, hoperations, himports, himports ▸ nodup_eraseDups _, ?_, ?_⟩
  · intro n hn
    obtain ⟨x, _, hn⟩ := (hmem n).mp hn
    obtain ⟨t, _, hn⟩ := List.mem_flatMap.mp hn
    exact (TypeNode.mem_externalTypes.mp hn).2
  · intro hany x hx n hn
    obtain ⟨t, ht, hn⟩ := List.mem_flatMap.mp hn
    rcases TypeNode.base_or_external_of_printed hany hn with hbase | hexternal
    · exact Or.inl hbase
    · exact Or.inr ((hmem n).mpr ⟨x, hx, List.mem_flatMap.mpr ⟨t, ht, hexternal⟩⟩)

/-- The page, its pets and their orders are imported, and the filter; the token, which is sent
nowhere that is known, is not. -/
theorem imports_of_module_pets :
    let parameter (name location : String) (rest : Value.Entries) : Value :=
      .map ((.str "name", .str name) :: (.str "in", .str location) :: rest)
    let response : Value :=
      .map [(.str "schema", .map [(.str "type", .str "Page<List<Pet>,Order>")])]
    let operation : Value := .map [(.str "tags", .list [.str "pet"]),
      (.str "responses", .map [(.str "200", response)]),
      (.str "parameters", .list [parameter "id" "path" [(.str "type", .str "integer")],
        parameter "token" "matrix" [(.str "type", .str "Secret")],
        parameter "filter" "body" [(.str "schema",
          .map [(.str "$ref", .str "#/definitions/Filter")])]])]
    let document : Value :=
      .map [(.str "paths", .map [(.str "/pets/\x7bid\x7d", .map [(.str "get", operation)])])]
    let m : ApiModule :=
      { name := "pet"
        description := none
        operations := [⟨"getPetsById", .get, "/pets/$\x7bid\x7d", none, "Page<Pet[],Order>",
          [⟨"id", .path, "number", true⟩, ⟨"filter", .body, "Filter", false⟩]⟩]
        imports := ["Page", "Pet", "Order", "Filter"] }
    (ofDocument .typeScript ["Pet"] document).result = .ok [m] ∧ m ∈ [m] ∧
      TypeTable.typeScript.isBase "any" = true ∧
      ∃ tag signed, ImportsSigned .typeScript ["Pet"] document m tag signed := by
  intro parameter response operation document m
  have hrun : (ofDocument .typeScript ["Pet"] document).result = .ok [m] := by decide +kernel
  exact ⟨hrun, List.mem_singleton_self m, by decide,
    imports_of_module hrun (List.mem_singleton_self m)⟩

end Modules
end ClientCompiler
