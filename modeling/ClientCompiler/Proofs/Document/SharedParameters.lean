import ClientCompiler.Document.Parameters
import ClientCompiler.Proofs.Fields
import ClientCompiler.Proofs.Returning

/-!
Parameters by reference. What a reference to a shared parameter stands for, what is reported of one
that leads nowhere, and which parameters a merge keeps.
-/

namespace ClientCompiler.Parameters

variable {shared : Value}

def sharedReference? (p : Value.Entries) : Option (String × String) :=
  match Value.fieldD "$ref" p with
  | .str ref =>
    (Text.dropPrefix? Reference.parameterPrefix.toList ref.toList).map fun name =>
      (ref, String.ofList name)
  | _ => none

def sharedObject? (shared : Value) (name : String) : Option Value.Entries :=
  match shared with
  | .map known =>
    match Value.fieldD name known with
    | .map target => some target
    | _ => none
  | _ => none

/-- No shared parameter is a reference to a shared parameter. -/
def SharedPlainly (shared : Value) : Prop :=
  ∀ name target, sharedObject? shared name = some target → sharedReference? target = none

theorem sharedObject?_map {known : Value.Entries} {name : String} {target : Value.Entries} :
    sharedObject? (.map known) name = some target ↔ Value.fieldD name known = .map target := by
  simp only [sharedObject?]
  cases Value.fieldD name known <;> simp

theorem sharedPlainly_of_forall {known : Value.Entries}
    (h : ∀ kv ∈ known, ∀ target, kv.2 = .map target → sharedReference? target = none) :
    SharedPlainly (.map known) := by
  intro name target hobject
  rw [sharedObject?_map, Value.fieldD] at hobject
  cases hfield : Value.field name known with
  | none =>
    rw [hfield] at hobject
    cases hobject
  | some v =>
    rw [hfield] at hobject
    exact h _ (Value.mem_of_field hfield) target hobject

theorem dereference_of_plain {p : Value.Entries} (h : sharedReference? p = none) :
    dereference shared (.map p) = ⟨.ok p, []⟩ := by
  unfold sharedReference? at h
  rw [dereference]
  split
  · next ref href =>
    rw [href] at h
    rw [Option.map_eq_none_iff.mp h]
    rfl
  · rfl

/-- What a reference stands for, and what is reported of it. It is looked up only where the shared
parameters are an object. -/
theorem dereference_of_reference {p : Value.Entries} {ref name : String}
    (h : sharedReference? p = some (ref, name)) :
    dereference shared (.map p) =
      if shared.isMap then
        match sharedObject? shared name with
        | some target => ⟨.ok target, []⟩
        | none => ⟨.ok [], [.unresolved ref (some "parameters")]⟩
      else ⟨.error .noMember, []⟩ := by
  unfold sharedReference? at h
  split at h
  · next text href =>
    obtain ⟨rest, hrest, hpair⟩ := Option.map_eq_some_iff.mp h
    obtain ⟨rfl, rfl⟩ := Prod.mk.inj hpair
    simp only [dereference, href, hrest, sharedObject?]
    cases shared with
    | map known =>
      simp only [Shape.entries, Traced.bind_eq, Traced.lift_ok_bind, Value.isMap, if_true]
      cases Value.fieldD (String.ofList rest) known <;> rfl
    | _ => rfl
  · cases h

theorem plain_of_dereference (hshared : SharedPlainly shared) {v : Value} {p : Value.Entries}
    (h : (dereference shared v).result = .ok p) : sharedReference? p = none := by
  cases v with
  | map kvs =>
    cases href : sharedReference? kvs with
    | none =>
      rw [dereference_of_plain href] at h
      obtain rfl := Except.ok.inj h
      exact href
    | some found =>
      obtain ⟨ref, name⟩ := found
      rw [dereference_of_reference href] at h
      split at h
      · split at h
        · next target hobject =>
          obtain rfl := Except.ok.inj h
          exact hshared name target hobject
        · obtain rfl := Except.ok.inj h
          rfl
      · cases h
  | _ =>
    obtain rfl := Except.ok.inj h
    rfl

theorem reference_of_report {v : Value} {d : Diagnostic} (h : d ∈ (dereference shared v).log) :
    ∃ p ref name, v = .map p ∧ sharedReference? p = some (ref, name) ∧
      sharedObject? shared name = none ∧ d = .unresolved ref (some "parameters") := by
  cases v with
  | map kvs =>
    cases href : sharedReference? kvs with
    | none =>
      rw [dereference_of_plain href] at h
      cases h
    | some found =>
      obtain ⟨ref, name⟩ := found
      rw [dereference_of_reference href] at h
      split at h
      · split at h
        · cases h
        · next hobject =>
          exact ⟨kvs, ref, name, rfl, href, hobject, List.mem_singleton.mp h⟩
      · cases h
  | _ => cases h

theorem of_mem_merge {path operation merged : List Value.Entries}
    (h : merge path operation = .ok merged) {p : Value.Entries} (hp : p ∈ merged) :
    (p ∈ path ∨ p ∈ operation) ∧ p.isEmpty = false ∧ (Key.ofEntries p).hashable = true := by
  unfold merge at h
  split at h
  · next hall =>
    obtain rfl := Except.ok.inj h
    rw [List.all_eq_true] at hall
    have hmem : (p ∈ path ∨ p ∈ operation) ∧ p.isEmpty = false := by
      rcases List.mem_append.mp hp with hp | hp
      · obtain ⟨hmem, hkept⟩ := List.mem_filter.mp hp
        rw [Bool.and_eq_true, Bool.not_eq_true'] at hkept
        exact ⟨Or.inl hmem, hkept.1⟩
      · obtain ⟨hmem, hkept⟩ := List.mem_filter.mp hp
        exact ⟨Or.inr hmem, by simpa using hkept⟩
    refine ⟨hmem.1, hmem.2, ?_⟩
    have hkey := hall p (List.mem_append.mpr hmem.1.symm)
    rwa [hmem.2, Bool.false_or] at hkey
  · cases h

theorem merge_nil {merged : List Value.Entries}
    (h : ∀ p ∈ merged, p.isEmpty = false ∧ (Key.ofEntries p).hashable = true) :
    merge [] merged = .ok merged := by
  have hall : ((merged ++ []).all fun p => p.isEmpty || (Key.ofEntries p).hashable) = true := by
    rw [List.append_nil, List.all_eq_true]
    intro p hp
    rw [(h p hp).2, Bool.or_true]
  have hown : (merged.filter fun p => !p.isEmpty) = merged := by
    rw [List.filter_eq_self]
    intro p hp
    rw [(h p hp).1]
    rfl
  rw [merge, if_pos hall, mergeKeyed, hown]
  rfl

end ClientCompiler.Parameters
