import ClientCompiler.Proofs.Document.Closed
import ClientCompiler.Proofs.Document.Imports

/-!
Where stored types come from. Every property of a model stands at a place of the definitions, and
every type that an operation stores is the type of a schema of its entry. A schema from which a
reference is reached has the type that the reference names, under as many arrays as lead to it.
-/

namespace ClientCompiler

namespace TypeNode

def underArrays : Nat → TypeNode → TypeNode
  | 0, t => t
  | k + 1, t => arrayOf (underArrays k t)

theorem innermost_underArrays (k : Nat) (t : TypeNode) :
    (underArrays k t).innermost = t.innermost := by
  induction k with
  | zero => rfl
  | succ k ih => rw [underArrays, innermost_arrayOf, ih]

theorem names_underArrays {k : Nat} {t : TypeNode} {n : String} (h : n ∈ (underArrays k t).names) :
    n = "array" ∨ n ∈ t.names := by
  induction k with
  | zero => exact Or.inr h
  | succ k ih =>
    rw [underArrays] at h
    have h : n = "array" ∨ n ∈ (underArrays k t).names := by simpa [arrayOf, names, namesAll] using h
    exact h.elim Or.inl ih

end TypeNode

namespace Traced

variable {α β : Type} {f : α → Traced β} {as : List α} {bs : List β}

theorem returned_of_each (h : (each f as).result = .ok bs) {a : α} (ha : a ∈ as) :
    ∃ b, (f a).result = .ok b := by
  rw [result_each, mapM_eq_ok] at h
  obtain ⟨b, -, hb⟩ := exists_of_forall₂_of_mem h.flip ha
  exact ⟨b, hb⟩

theorem mem_log_of_each (h : (each f as).result = .ok bs) {a : α} (ha : a ∈ as) {d : Diagnostic}
    (hd : d ∈ (f a).log) : d ∈ (each f as).log := by
  induction as generalizing bs with
  | nil => cases ha
  | cons b as ih =>
    obtain ⟨c, hc, h⟩ := result_bind_eq_ok.mp h
    rcases List.mem_cons.mp ha with rfl | ha
    · exact mem_log_bind.mpr (Or.inl hd)
    · obtain ⟨cs, hcs, -⟩ := result_bind_eq_ok.mp h
      exact mem_log_bind.mpr (Or.inr ⟨c, hc, mem_log_bind.mpr (Or.inl (ih hcs ha))⟩)

end Traced

namespace Schema

variable {table : TypeTable} {registry : List String} {context : Option String} {name : String}

theorem target_of_along {c : List Link} (halong : referenceAlong writesArray c = some name)
    {found : Option TypeNode} (h : referenceTarget? table c = .ok found) :
    ∃ k, found = some (.underArrays k (.ofString table name)) := by
  induction c generalizing found with
  | nil => cases halong
  | cons l rest ih =>
    cases l with
    | endless => cases halong
    | schema s =>
      obtain ⟨target, htarget, h⟩ := bind_eq_ok.mp h
      obtain rfl := definitionName?_of_target? htarget
      rw [referenceAlong] at halong
      cases hname : definitionName? s with
      | some n =>
        simp only [hname, Option.some.injEq] at halong
        subst halong
        simp only [hname, Option.map_some] at h
        exact ⟨0, (pure_eq_ok.mp h).symm⟩
      | none =>
        simp only [hname, Option.map_none] at halong h
        by_cases hsays : writesArray s = true
        · rw [if_pos hsays] at halong
          rw [if_pos (show saysArray (Value.fieldD "type" s) = true from hsays)] at h
          obtain ⟨below, hbelow, h⟩ := bind_eq_ok.mp h
          obtain ⟨k, rfl⟩ := ih halong hbelow
          exact ⟨k + 1, by rw [TypeNode.underArrays]; exact (pure_eq_ok.mp h).symm⟩
        · rw [if_neg hsays] at halong
          cases halong

theorem fieldType_of_along {c : List Link}
    (halong : referenceAlong (spellsArray table) c = some name) {t : TypeNode}
    (h : (fieldType table registry context c).result = .ok t) :
    (∃ k, t = .underArrays k (.ofString table name)) ∧
      (fieldType table registry context c).log =
        danglingLog table registry context (TypeNode.ofString table name) := by
  induction c generalizing t with
  | nil => cases halong
  | cons l rest ih =>
    cases l with
    | endless => cases halong
    | schema s =>
      rw [fieldType, Traced.bind_eq] at h ⊢
      obtain ⟨target, htarget, h⟩ := Traced.result_bind_eq_ok.mp h
      rw [Traced.result_lift] at htarget
      obtain rfl := definitionName?_of_target? htarget
      rw [htarget, Traced.lift_ok_bind]
      rw [referenceAlong] at halong
      cases hname : definitionName? s with
      | some n =>
        simp only [hname, Option.some.injEq] at halong
        subst halong
        simp only [hname, Option.map_some] at h ⊢
        exact ⟨⟨0, (Except.ok.inj h).symm⟩, trivial⟩
      | none =>
        simp only [hname, Option.map_none] at halong h ⊢
        by_cases hspells : spellsArray table s = true
        · rw [if_pos hspells] at halong
          rw [spellsArray, Bool.and_eq_true] at hspells
          obtain ⟨htruthy, harray⟩ := hspells
          simp only [htruthy, Bool.not_true, Bool.false_eq_true, if_false] at h ⊢
          obtain ⟨node, hnode, h⟩ := Traced.result_bind_eq_ok.mp h
          rw [Traced.result_lift] at hnode
          rw [hnode] at harray ⊢
          have hrest : rest ≠ [] := by
            rintro rfl
            cases halong
          have hgoes : (node.isArray && node.generics.isEmpty && !rest.isEmpty) = true := by
            have hnode : (node.isArray && node.generics.isEmpty) = true := harray
            rw [hnode]
            simpa using hrest
          rw [Traced.bind_eq, Traced.lift_ok_bind, if_pos hgoes]
          rw [if_pos hgoes] at h
          obtain ⟨element, helement, h⟩ := Traced.result_bind_eq_ok.mp h
          obtain ⟨⟨k, rfl⟩, hlog⟩ := ih halong helement
          refine ⟨⟨k + 1, ?_⟩, ?_⟩
          · rw [TypeNode.underArrays]
            exact (Except.ok.inj h).symm
          · rw [← hlog, Traced.bind_eq, Traced.bind, helement]
            exact List.append_nil _
        · rw [if_neg hspells] at halong
          cases halong

end Schema

namespace TwoPass

variable {table : TypeTable}

theorem source_of_along {schema : Value.Entries} {name : String} {source : TypeSource}
    (halong : Schema.referenceAlong Schema.writesArray (Schema.chain schema) = some name)
    (h : typeSource table schema = .ok source) :
    ∃ k, source = .reference (.underArrays k (.ofString table name)) := by
  obtain ⟨found, hfound, h⟩ := bind_eq_ok.mp h
  obtain ⟨k, rfl⟩ := Schema.target_of_along halong hfound
  exact ⟨k, (pure_eq_ok.mp h).symm⟩

end TwoPass

namespace Operations

variable {scope : Scope} {e : Entry}

/-- The schemas that are typed for an entry: that of its result, and those of its parameters of
known location. -/
def Entry.schemas (shared : Value) (e : Entry) : List Value.Entries :=
  (resultSchema? e.fields).toList ++
    ((e.inlined ⟨.empty, [], shared, .null⟩).filter fun p => (Parameters.location? p).isSome).map
      Parameters.schema

theorem Entry.inlined_eq {merged : List Value.Entries}
    (h : (e.parameters scope).result = .ok merged) :
    e.inlined ⟨.empty, [], scope.shared, .null⟩ = merged := by
  show (e.parameters scope).result.toOption.getD [] = merged
  rw [h]
  rfl

theorem returnType_of_resultSchema {context : String} {operation schema : Value.Entries}
    (h : resultSchema? operation = some schema) :
    returnType scope context operation =
      (Schema.fieldType scope.table scope.registry (some context) (Schema.chain schema)).bind
        fun t => Traced.pure (some t) := by
  unfold resultSchema? at h
  split at h
  · next responses hresponses =>
    split at h
    · next found hfound =>
      obtain rfl := Option.some.inj h
      rw [returnType, toOption_eq_some.mp hresponses, Traced.bind_eq, Traced.lift_ok_bind, hfound]
      rfl
    · cases h
  · cases h

theorem resultSchema_of_returnType {context : String} {operation : Value.Entries} {t : TypeNode}
    (h : (returnType scope context operation).result = .ok (some t)) :
    ∃ schema, resultSchema? operation = some schema ∧
      (Schema.fieldType scope.table scope.registry (some context)
        (Schema.chain schema)).result = .ok t := by
  obtain ⟨responses, hresponses, hreturns⟩ := Traced.result_bind_eq_ok.mp h
  rw [Traced.result_lift] at hresponses
  split at hreturns
  · next schema hschema =>
    refine ⟨schema, by simp [resultSchema?, hresponses, Except.toOption, hschema], ?_⟩
    obtain ⟨u, hu, hreturns⟩ := Traced.result_bind_eq_ok.mp hreturns
    rw [hu, Option.some.inj (Except.ok.inj hreturns)]
  · cases hreturns

theorem schema_of_tree {s : Signature} {op : Operation} (h : Signature.Of scope e s op)
    {t : TypeNode} (ht : t ∈ s.trees) :
    ∃ schema ∈ e.schemas scope.shared, ∃ context,
      (Schema.fieldType scope.table scope.registry (some context)
        (Schema.chain schema)).result = .ok t := by
  rcases List.mem_append.mp ht with ht | ht
  · obtain ⟨context, hresult⟩ := h.result
    rw [Option.mem_toList.mp ht] at hresult
    obtain ⟨schema, hschema, hfield⟩ := resultSchema_of_returnType hresult
    exact ⟨schema, List.mem_append_left _ (Option.mem_toList.mpr hschema), context, hfield⟩
  · obtain ⟨context, merged, hmerged, hforall⟩ := h.parameters
    obtain ⟨p, hp, hfield⟩ := exists_of_forall₂_of_mem hforall ht
    refine ⟨Parameters.schema p, List.mem_append_right _ (List.mem_map.mpr ⟨p, ?_, rfl⟩),
      context, hfield⟩
    rw [Entry.inlined_eq hmerged]
    exact hp

end Operations

namespace Modules

open Operations (entriesOfDocument scopeOf)

variable {table : TypeTable} {registry : List String} {fields : Value.Entries}

/-- An entry that lists the tag of a module. -/
def Includes (fields : Value.Entries) (e : Operations.Entry) : Prop :=
  e ∈ entriesOfDocument (.map fields) ∧
    ∃ found, tags fields = .ok found ∧ ∃ tag ∈ found, e.lists tag.1 = true

def sharedOf (fields : Value.Entries) : Value :=
  Shape.orEmptyMap (Value.fieldD "parameters" fields)

/-- The operations of the module of a tag store the types of the entries that list it, and the
imports of the module are their names. -/
theorem signed_of_tag {tag : Value × Value} {m : ApiModule}
    (h : (ofTag table registry fields tag).result = .ok m) :
    ∃ signed : List (Signature × Operation),
      (∀ x ∈ signed, ∃ e ∈ entriesOfDocument (.map fields), e.lists tag.1 = true ∧
        Signature.Of (scopeOf table registry (.map fields) tag.1) e x.1 x.2) ∧
      m.operations = signed.map Prod.snd ∧
      ∀ n, n ∈ m.imports ↔ ∃ x ∈ signed, n ∈ x.1.externalTypes table := by
  obtain ⟨fs, hfs, -, -, -, hoperations, himports⟩ := ofTag_eq_ok h
  obtain ⟨signed, hsigned, hsignedops, hnames⟩ := Operations.signatures_of_entries hfs
  refine ⟨signed, ?_, by rw [hoperations, hsignedops], ?_⟩
  · intro x hx
    obtain ⟨e, he, hof⟩ := exists_of_forall₂_of_mem hsigned hx
    obtain ⟨he, hlists⟩ := List.mem_filter.mp he
    exact ⟨e, he, hlists, hof⟩
  · intro n
    rw [himports, hnames, Operations.scopeOf_table, dedupe_eq_eraseDups, List.mem_eraseDups,
      List.mem_flatMap]

end Modules
end ClientCompiler
