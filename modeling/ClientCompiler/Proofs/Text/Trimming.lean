import ClientCompiler.Text.Blank
import Mathlib.Data.List.DropRight

/-!
Laws of trimming. Blanks around a text do not count, a character that is not blank stops the
trimming on either side, and a second trimming changes nothing.
-/

namespace ClientCompiler.Text

def AllBlank (s : List Char) : Prop := ∀ c ∈ s, isBlank c = true

instance (s : List Char) : Decidable (AllBlank s) :=
  decidable_of_iff (s.all isBlank = true) List.all_eq_true

theorem AllBlank.reverse {s : List Char} (h : AllBlank s) : AllBlank s.reverse :=
  fun c hc => h c (List.mem_reverse.mp hc)

theorem trimLeft_blank_append {a : List Char} (ha : AllBlank a) (s : List Char) :
    trimLeft (a ++ s) = trimLeft s :=
  List.dropWhile_append_of_pos ha

theorem trimRight_append_blank {b : List Char} (hb : AllBlank b) (s : List Char) :
    trimRight (s ++ b) = trimRight s := by
  unfold trimRight
  rw [List.reverse_append, List.dropWhile_append_of_pos hb.reverse]

theorem trimLeft_append_cons {c : Char} (hc : isBlank c = false) (s r : List Char) :
    trimLeft (s ++ c :: r) = trimLeft s ++ c :: r := by
  unfold trimLeft
  rw [List.dropWhile_append]
  split
  · next h => rw [List.isEmpty_iff.mp h, List.dropWhile_cons_of_neg (by simp [hc])]; rfl
  · rfl

theorem trimRight_append_cons {c : Char} (hc : isBlank c = false) (s r : List Char) :
    trimRight (s ++ c :: r) = s ++ c :: trimRight r := by
  have h := trimLeft_append_cons hc r.reverse s.reverse
  unfold trimLeft at h
  unfold trimRight
  rw [List.reverse_append, List.reverse_cons, List.append_assoc, List.singleton_append, h]
  simp

theorem trimLeft_cons {c : Char} (hc : isBlank c = false) (r : List Char) :
    trimLeft (c :: r) = c :: r :=
  trimLeft_append_cons hc [] r

theorem trimRight_concat {c : Char} (hc : isBlank c = false) (s : List Char) :
    trimRight (s ++ [c]) = s ++ [c] :=
  trimRight_append_cons hc s []

theorem trimLeft_eq_nil_or_cons (s : List Char) :
    trimLeft s = [] ∨ ∃ c r, trimLeft s = c :: r ∧ isBlank c = false := by
  induction s with
  | nil => exact Or.inl rfl
  | cons c s ih =>
    by_cases hc : isBlank c = true
    · rw [trimLeft_of_blank hc]
      exact ih
    · have hc : isBlank c = false := by simpa using hc
      exact Or.inr ⟨c, s, trimLeft_cons hc s, hc⟩

theorem trimLeft_trimLeft (s : List Char) : trimLeft (trimLeft s) = trimLeft s :=
  List.dropWhile_idempotent _ s

theorem trimRight_trimRight (s : List Char) : trimRight (trimRight s) = trimRight s :=
  List.rdropWhile_idempotent _ s

@[simp] theorem trim_trimLeft (s : List Char) : trim (trimLeft s) = trim s := by
  unfold trim
  rw [trimLeft_trimLeft]

@[simp] theorem trim_trim (s : List Char) : trim (trim s) = trim s := by
  unfold trim
  rcases trimLeft_eq_nil_or_cons s with h | ⟨c, r, h, hc⟩
  · rw [h]; rfl
  · have hr : trimRight (c :: r) = c :: trimRight r := trimRight_append_cons hc [] r
    rw [h, hr, trimLeft_cons hc, ← hr, trimRight_trimRight]

theorem trim_surrounded {a b : List Char} (ha : AllBlank a) (hb : AllBlank b) (s : List Char) :
    trim (a ++ s ++ b) = trim s := by
  unfold trim
  rw [List.append_assoc, trimLeft_blank_append ha]
  unfold trimLeft
  rw [List.dropWhile_append]
  split
  · next h =>
    rw [List.isEmpty_iff.mp h, List.dropWhile_eq_nil_iff.mpr hb]
  · exact trimRight_append_blank hb _

/-- A text between two characters that are not blank loses blanks on its left only. -/
theorem trim_append_between {c e : Char} (hc : isBlank c = false) (he : isBlank e = false)
    (s r : List Char) : trim (s ++ c :: (r ++ [e])) = trimLeft s ++ c :: (r ++ [e]) := by
  unfold trim
  rw [trimLeft_append_cons hc, trimRight_append_cons hc, trimRight_concat he]

theorem length_trim_le (s : List Char) : (trim s).length ≤ s.length := by
  have hl : (trimLeft s).length ≤ s.length := (List.dropWhile_suffix _).length_le
  have hr : (trim s).length ≤ (trimLeft s).length := (List.rdropWhile_prefix _ _).length_le
  omega

theorem mem_of_mem_trim {c : Char} {s : List Char} (h : c ∈ trim s) : c ∈ s := by
  rw [trim, trimRight, List.mem_reverse] at h
  have hleft := (List.dropWhile_suffix isBlank).subset h
  exact (List.dropWhile_suffix isBlank).subset (List.mem_reverse.mp hleft)

/-- Trimming commutes with a change of characters that keeps blanks apart from the others. -/
theorem trim_map {f : Char → Char} (hf : ∀ c, isBlank (f c) = isBlank c) (s : List Char) :
    trim (s.map f) = (trim s).map f := by
  have hp : isBlank ∘ f = isBlank := funext hf
  unfold trim trimRight trimLeft
  rw [List.dropWhile_map, hp, ← List.map_reverse, List.dropWhile_map, hp, ← List.map_reverse]

end ClientCompiler.Text
