import ClientCompiler.Document.Modules
import Mathlib.Data.List.Perm.Basic

/-!
First occurrences. The library's list without repetitions is the one that imports and tags are
cut down to, and it has one place for each value that occurs.
-/

namespace ClientCompiler

section Lists

variable {α : Type} [DecidableEq α]

/-- The induction is on the length: what follows the first value is filtered before it is cut down
in turn. -/
theorem nodup_eraseDups : ∀ l : List α, l.eraseDups.Nodup
  | [] => by simp
  | a :: l => by
    have hshorter := List.length_filter_le (fun b => !b == a) l
    rw [List.eraseDups_cons, List.nodup_cons]
    refine ⟨?_, nodup_eraseDups _⟩
    intro h
    have hkept := (List.mem_filter.mp (List.mem_eraseDups.mp h)).2
    simp at hkept
termination_by l => l.length
decreasing_by
  simp only [List.length_cons]
  omega

theorem eraseDups_perm {l m : List α} (h : l.Perm m) : l.eraseDups.Perm m.eraseDups := by
  rw [List.perm_ext_iff_of_nodup (nodup_eraseDups l) (nodup_eraseDups m)]
  intro a
  rw [List.mem_eraseDups, List.mem_eraseDups, h.mem_iff]

end Lists

theorem dedupe_filter (p : String → Bool) (l : List String) :
    dedupe (l.filter p) = (dedupe l).filter p := by
  induction l with
  | nil => rfl
  | cons n l ih =>
    rw [dedupe, List.filter_cons, List.filter_cons, List.filter_filter]
    cases hp : p n with
    | true =>
      simp only [if_true]
      rw [dedupe, ih, List.filter_filter]
      simp only [Bool.and_comm]
    | false =>
      simp only [Bool.false_eq_true, if_false]
      rw [ih]
      refine List.filter_congr fun m _ => ?_
      by_cases hm : m = n
      · simp [hm, hp]
      · simp [hm]

/-- Cutting down first or filtering first is the same, so that both ways to keep the first
occurrence of every name agree. -/
theorem dedupe_eq_eraseDups : ∀ l : List String, dedupe l = l.eraseDups
  | [] => rfl
  | n :: l => by
    have hshorter := List.length_filter_le (fun m => !m == n) l
    rw [List.eraseDups_cons, ← dedupe_eq_eraseDups (l.filter _), dedupe_filter, dedupe]
    congr 1
    refine List.filter_congr fun m _ => ?_
    by_cases hm : m = n <;> simp [hm]
termination_by l => l.length
decreasing_by
  simp only [List.length_cons]
  omega

theorem distinct_map_str (l : List String) :
    Modules.distinct (l.map .str) = l.eraseDups.map .str := by
  rw [← dedupe_eq_eraseDups]
  induction l with
  | nil => rfl
  | cons n l ih =>
    rw [List.map_cons, Modules.distinct, ih, dedupe, List.map_cons, List.filter_map]
    congr 2
    refine List.filter_congr fun m _ => ?_
    by_cases hm : n = m
    · simp [hm, Value.same]
    · simp [hm, Value.same, Ne.symm hm]

theorem eq_of_perm_of_length_le_one {α : Type} {l m : List α} (h : l.Perm m)
    (hl : l.length ≤ 1) : l = m := by
  match l, hl with
  | [], _ => exact h.nil_eq
  | [a], _ => exact (List.perm_singleton.mp h.symm).symm

end ClientCompiler
