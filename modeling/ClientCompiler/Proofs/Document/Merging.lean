import ClientCompiler.Document.Parameters
import ClientCompiler.Proofs.Keys
import Mathlib.Data.List.Pairwise

/-!
Merging parameters. A list is seen as the keys that its parameters have: a merge has the keys of
both lists, and keeps what the second one does not replace. So lists of parameters are a monoid
under merging, in which the second list wins.
-/

namespace ClientCompiler.Parameters

namespace Key

theorem same_eq_true {k l : Key} (h : k.hashable = true) :
    k.same l = true ↔
      k.name.keyForm = l.name.keyForm ∧ k.location.keyForm = l.location.keyForm := by
  rw [hashable, Bool.and_eq_true] at h
  rw [same, Bool.and_eq_true, Value.same_eq_true h.1, Value.same_eq_true h.2]

theorem same_self {k : Key} (h : k.hashable = true) : k.same k = true :=
  (same_eq_true h).mpr ⟨rfl, rfl⟩

theorem same_symm {k l : Key} (hk : k.hashable = true) (hl : l.hashable = true)
    (h : k.same l = true) : l.same k = true := by
  obtain ⟨hname, hlocation⟩ := (same_eq_true hk).mp h
  exact (same_eq_true hl).mpr ⟨hname.symm, hlocation.symm⟩

theorem same_trans {k l m : Key} (hk : k.hashable = true) (hl : l.hashable = true)
    (h : k.same l = true) (h' : l.same m = true) : k.same m = true := by
  obtain ⟨hname, hlocation⟩ := (same_eq_true hk).mp h
  obtain ⟨hname', hlocation'⟩ := (same_eq_true hl).mp h'
  exact (same_eq_true hk).mpr ⟨hname.trans hname', hlocation.trans hlocation'⟩

end Key

def Keyed (ps : List Value.Entries) : Prop := ∀ p ∈ ps, (Key.ofEntries p).hashable = true

/-- Whether one of the parameters has a key; empty ones have none. -/
def hasKey (ps : List Value.Entries) (k : Key) : Bool :=
  ps.any fun p => !p.isEmpty && (Key.ofEntries p).same k

def DistinctKeys (ps : List Value.Entries) : Prop :=
  (ps.filter fun p => !p.isEmpty).Pairwise fun p q =>
    (Key.ofEntries p).same (Key.ofEntries q) = false

variable {a b c : List Value.Entries} {k : Key} {p : Value.Entries}

theorem hasKey_eq_true : hasKey a k = true ↔
    ∃ p ∈ a, p.isEmpty = false ∧ (Key.ofEntries p).same k = true := by
  simp [hasKey]

theorem hasKey_eq_false : hasKey a k = false ↔
    ∀ p ∈ a, p.isEmpty = false → (Key.ofEntries p).same k = false := by
  simp [hasKey]

theorem mergeKeyed_eq (a b : List Value.Entries) :
    mergeKeyed a b = (a.filter fun p => !p.isEmpty && !hasKey b (Key.ofEntries p)) ++
      b.filter fun p => !p.isEmpty := by
  have hown (p : Value.Entries) : ((b.filter fun q => !q.isEmpty).any fun q =>
      (Key.ofEntries q).same (Key.ofEntries p)) = hasKey b (Key.ofEntries p) := by
    rw [List.any_filter]
    rfl
  unfold mergeKeyed
  simp only [hown]

theorem mem_mergeKeyed : p ∈ mergeKeyed a b ↔
    p.isEmpty = false ∧ ((p ∈ a ∧ hasKey b (Key.ofEntries p) = false) ∨ p ∈ b) := by
  rw [mergeKeyed_eq, List.mem_append, List.mem_filter, List.mem_filter]
  simp only [Bool.and_eq_true, Bool.not_eq_true']
  tauto

theorem Keyed.mergeKeyed (ha : Keyed a) (hb : Keyed b) : Keyed (mergeKeyed a b) := by
  intro p hp
  obtain ⟨-, ⟨hp, -⟩ | hp⟩ := mem_mergeKeyed.mp hp
  · exact ha p hp
  · exact hb p hp

theorem filter_mergeKeyed (a b : List Value.Entries) :
    ((mergeKeyed a b).filter fun p => !p.isEmpty) = mergeKeyed a b := by
  rw [List.filter_eq_self]
  intro p hp
  rw [(mem_mergeKeyed.mp hp).1]
  rfl

theorem hasKey_mergeKeyed (ha : Keyed a) (hb : Keyed b) (k : Key) :
    hasKey (mergeKeyed a b) k = (hasKey a k || hasKey b k) := by
  rw [Bool.eq_iff_iff, Bool.or_eq_true, hasKey_eq_true, hasKey_eq_true, hasKey_eq_true]
  constructor
  · rintro ⟨p, hp, hfilled, hkey⟩
    obtain ⟨-, ⟨hp, -⟩ | hp⟩ := mem_mergeKeyed.mp hp
    · exact Or.inl ⟨p, hp, hfilled, hkey⟩
    · exact Or.inr ⟨p, hp, hfilled, hkey⟩
  · rintro (⟨p, hp, hfilled, hkey⟩ | ⟨p, hp, hfilled, hkey⟩)
    · cases hreplaced : hasKey b (Key.ofEntries p) with
      | false => exact ⟨p, mem_mergeKeyed.mpr ⟨hfilled, Or.inl ⟨hp, hreplaced⟩⟩, hfilled, hkey⟩
      | true =>
        obtain ⟨q, hq, hqfilled, hsame⟩ := hasKey_eq_true.mp hreplaced
        exact ⟨q, mem_mergeKeyed.mpr ⟨hqfilled, Or.inr hq⟩, hqfilled,
          Key.same_trans (hb q hq) (ha p hp) hsame hkey⟩
    · exact ⟨p, mem_mergeKeyed.mpr ⟨hfilled, Or.inr hp⟩, hfilled, hkey⟩

theorem distinctKeys_mergeKeyed (ha : Keyed a) (hb : Keyed b) (hda : DistinctKeys a)
    (hdb : DistinctKeys b) : DistinctKeys (mergeKeyed a b) := by
  unfold DistinctKeys
  rw [filter_mergeKeyed, mergeKeyed_eq, List.pairwise_append]
  refine ⟨?_, hdb, ?_⟩
  · have hkept := hda.filter fun p => !hasKey b (Key.ofEntries p)
    rw [List.filter_filter] at hkept
    simpa only [Bool.and_comm] using hkept
  · intro p hp q hq
    obtain ⟨hp, hkept⟩ := List.mem_filter.mp hp
    obtain ⟨hq, hfilled⟩ := List.mem_filter.mp hq
    rw [Bool.and_eq_true, Bool.not_eq_true', Bool.not_eq_true'] at hkept
    have hapart := hasKey_eq_false.mp hkept.2 q hq (by simpa using hfilled)
    rw [Bool.eq_false_iff] at hapart ⊢
    exact fun hsame => hapart (Key.same_symm (ha p hp) (hb q hq) hsame)

theorem mergeKeyed_assoc (hb : Keyed b) (hc : Keyed c) (a : List Value.Entries) :
    mergeKeyed (mergeKeyed a b) c = mergeKeyed a (mergeKeyed b c) := by
  have hkept : (a.filter fun p => (!p.isEmpty && !hasKey c (Key.ofEntries p)) &&
      (!p.isEmpty && !hasKey b (Key.ofEntries p))) =
      a.filter fun p => !p.isEmpty && !hasKey (mergeKeyed b c) (Key.ofEntries p) := by
    refine List.filter_congr fun p _ => ?_
    rw [hasKey_mergeKeyed hb hc]
    cases p.isEmpty <;> cases hasKey b (Key.ofEntries p) <;>
      cases hasKey c (Key.ofEntries p) <;> rfl
  have hown : (b.filter fun p => (!p.isEmpty && !hasKey c (Key.ofEntries p)) && !p.isEmpty) =
      b.filter fun p => !p.isEmpty && !hasKey c (Key.ofEntries p) := by
    refine List.filter_congr fun p _ => ?_
    cases p.isEmpty <;> simp
  rw [mergeKeyed_eq a (mergeKeyed b c), filter_mergeKeyed, mergeKeyed_eq (mergeKeyed a b) c,
    mergeKeyed_eq a b, mergeKeyed_eq b c, List.filter_append, List.filter_filter,
    List.filter_filter, hown, List.append_assoc, ← mergeKeyed_eq b c, hkept]

theorem mergeKeyed_self (hb : Keyed b) : mergeKeyed b b = b.filter fun p => !p.isEmpty := by
  have hnone : (b.filter fun p => !p.isEmpty && !hasKey b (Key.ofEntries p)) = [] := by
    rw [List.filter_eq_nil_iff]
    intro p hp hkept
    rw [Bool.and_eq_true, Bool.not_eq_true', Bool.not_eq_true', hasKey_eq_false] at hkept
    have hself := hkept.2 p hp hkept.1
    rw [Key.same_self (hb p hp)] at hself
    cases hself
  rw [mergeKeyed_eq, hnone, List.nil_append]

theorem mergeKeyed_filter (a b : List Value.Entries) :
    mergeKeyed a (b.filter fun p => !p.isEmpty) = mergeKeyed a b := by
  unfold mergeKeyed
  simp only [List.filter_filter, Bool.and_self]

theorem nil_mergeKeyed (a : List Value.Entries) :
    mergeKeyed [] a = a.filter fun p => !p.isEmpty := by
  rw [mergeKeyed_eq, List.filter_nil, List.nil_append]

theorem mergeKeyed_nil (a : List Value.Entries) :
    mergeKeyed a [] = a.filter fun p => !p.isEmpty := by
  have hnone (p : Value.Entries) : hasKey [] (Key.ofEntries p) = false := rfl
  simp only [mergeKeyed_eq, List.filter_nil, List.append_nil, hnone, Bool.not_false, Bool.and_true]

theorem keyed_of_filled (h : ∀ p ∈ a, p.isEmpty = true ∨ (Key.ofEntries p).hashable = true) :
    Keyed a := by
  intro p hp
  rcases h p hp with hempty | hkey
  · rw [List.isEmpty_iff.mp hempty]
    rfl
  · exact hkey

theorem merge_eq_ok {merged : List Value.Entries} :
    merge a b = .ok merged ↔ Keyed a ∧ Keyed b ∧ merged = mergeKeyed a b := by
  unfold merge
  simp only [List.all_eq_true, Bool.or_eq_true, List.forall_mem_append]
  constructor
  · intro h
    split at h
    · next hall => exact ⟨keyed_of_filled hall.2, keyed_of_filled hall.1, (Except.ok.inj h).symm⟩
    · cases h
  · rintro ⟨ha, hb, rfl⟩
    rw [if_pos ⟨fun p hp => Or.inr (hb p hp), fun p hp => Or.inr (ha p hp)⟩]

structure Merged (path operation merged : List Value.Entries) : Prop where
  entries : merged = (path.filter fun p => decide (p.isEmpty = false ∧ ∀ q ∈ operation,
      q.isEmpty = false → (Key.ofEntries q).same (Key.ofEntries p) = false)) ++
    operation.filter fun q => !q.isEmpty
  keys : ∀ k, hasKey merged k = (hasKey path k || hasKey operation k)
  distinct : DistinctKeys path → DistinctKeys operation → DistinctKeys merged

theorem merged_mergeKeyed (ha : Keyed a) (hb : Keyed b) : Merged a b (mergeKeyed a b) := by
  refine ⟨?_, hasKey_mergeKeyed ha hb, distinctKeys_mergeKeyed ha hb⟩
  rw [mergeKeyed_eq]
  congr 1
  refine List.filter_congr fun p _ => ?_
  rw [Bool.eq_iff_iff, decide_eq_true_iff, Bool.and_eq_true, Bool.not_eq_true', Bool.not_eq_true',
    hasKey_eq_false]

/-- Merging lists of parameters that have keys: what the second list does not replace and then the
second list, with the keys of both, and none twice that was not there twice. It does not matter in
which order three lists are merged, a list that is merged once more changes nothing, and merging
with no parameters changes nothing where no parameter is empty. -/
theorem merge_monoid (ha : Keyed a) (hb : Keyed b) (hc : Keyed c) :
    ∃ ab bc abc, merge a b = .ok ab ∧ merge b c = .ok bc ∧ Merged a b ab ∧
      merge ab c = .ok abc ∧ merge a bc = .ok abc ∧ merge ab b = .ok ab ∧
      ((∀ p ∈ a, p.isEmpty = false) → merge a [] = .ok a ∧ merge [] a = .ok a) := by
  have hmerge {a b : List Value.Entries} (ha : Keyed a) (hb : Keyed b) :
      merge a b = .ok (mergeKeyed a b) := merge_eq_ok.mpr ⟨ha, hb, rfl⟩
  have hnil : Keyed [] := nofun
  have hab := ha.mergeKeyed hb
  have hbc := hb.mergeKeyed hc
  refine ⟨mergeKeyed a b, mergeKeyed b c, mergeKeyed (mergeKeyed a b) c, hmerge ha hb,
    hmerge hb hc, merged_mergeKeyed ha hb, hmerge hab hc, ?_, ?_, ?_⟩
  · rw [hmerge ha hbc, mergeKeyed_assoc hb hc]
  · rw [hmerge hab hb, mergeKeyed_assoc hb hb, mergeKeyed_self hb, mergeKeyed_filter]
  · intro hfilled
    have hall : (a.filter fun p => !p.isEmpty) = a := by
      rw [List.filter_eq_self]
      intro p hp
      rw [hfilled p hp]
      rfl
    rw [hmerge ha hnil, hmerge hnil ha, mergeKeyed_nil, nil_mergeKeyed, hall]
    exact ⟨rfl, rfl⟩

/-- Three lists that replace each other's limits, one of them with an empty object and with a limit
twice. The flag is called `1` in one list and `true` in another, which is one key. -/
theorem merge_monoid_limits :
    let param (name : Value) (type : String) : Value.Entries :=
      [(.str "name", name), (.str "in", .str "query"), (.str "type", .str type)]
    let a := [param (.str "limit") "integer", param (.int 1) "string", [],
      param (.str "limit") "long"]
    let b := [param (.bool true) "boolean", [(.str "name", .str "limit")]]
    let c := [param (.str "limit") "number", param (.float .nan) "string"]
    Keyed a ∧ Keyed b ∧ Keyed c ∧ ∃ ab bc abc, merge a b = .ok ab ∧ merge b c = .ok bc ∧
      Merged a b ab ∧ merge ab c = .ok abc ∧ merge a bc = .ok abc ∧ merge ab b = .ok ab ∧
      ((∀ p ∈ a, p.isEmpty = false) → merge a [] = .ok a ∧ merge [] a = .ok a) := by
  intro param a b c
  have ha : Keyed a := by
    unfold Keyed
    decide
  have hb : Keyed b := by
    unfold Keyed
    decide
  have hc : Keyed c := by
    unfold Keyed
    decide
  exact ⟨ha, hb, hc, merge_monoid ha hb hc⟩

end ClientCompiler.Parameters
