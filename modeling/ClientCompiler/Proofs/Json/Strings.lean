import ClientCompiler.Json.Reader
import ClientCompiler.Json.Writer

/-!
Strings in JSON are read back. Every character has an escape that stands for it alone, whatever
comes after it in the text.
-/

namespace ClientCompiler.Json

theorem hexQuad?_hexText {n : Nat} (h : n < 0x20) :
    ∃ a b c d, Value.hexText 4 n = [a, b, c, d] ∧ hexQuad? a b c d = some n := by
  have hall : ∀ n < 0x20, Value.hexText 4 n =
        ['0', '0', Value.hexDigit (n / 16), Value.hexDigit (n % 16)] ∧
      hexQuad? '0' '0' (Value.hexDigit (n / 16)) (Value.hexDigit (n % 16)) = some n := by
    decide +kernel
  exact ⟨_, _, _, _, hall n h⟩

theorem stringPoints_escapeChar (opened : Nat) (c : Char) {cs : List Char} (hcs : cs ≠ []) :
    stringPoints opened (escapeChar c ++ cs) = consPoint c.toNat (stringPoints opened cs) := by
  obtain ⟨e, cs, rfl⟩ := List.exists_cons_of_ne_nil hcs
  unfold escapeChar
  split
  · next h =>
    rw [Bool.or_eq_true, decide_eq_true_eq, decide_eq_true_eq] at h
    rcases h with rfl | rfl <;> rfl
  next hplain =>
  split
  · next h => subst h; rfl
  split
  · next h => subst h; rfl
  split
  · next h => subst h; rfl
  split
  · next h => subst h; rfl
  split
  · next h => subst h; rfl
  split
  · next h =>
    obtain ⟨w, x, y, z, htext, hquad⟩ := hexQuad?_hexText h
    rw [htext]
    simp only [List.cons_append, List.nil_append, stringPoints, hquad]
  · next h =>
    rw [Bool.or_eq_true, decide_eq_true_eq, decide_eq_true_eq, not_or] at hplain
    simp [stringPoints, hplain.1, hplain.2, h]

theorem stringPoints_escaped (opened : Nat) (s rest : List Char) :
    stringPoints opened (s.flatMap escapeChar ++ '"' :: rest) = .ok (s.map (·.toNat), rest) := by
  induction s with
  | nil => rfl
  | cons c s ih =>
    rw [List.flatMap_cons, List.append_assoc, stringPoints_escapeChar opened c (by simp), ih]
    rfl

theorem joinSurrogates_toNat (s : List Char) : joinSurrogates (s.map (·.toNat)) = s := by
  induction s with
  | nil => rfl
  | cons c s ih => rw [List.map_cons, joinSurrogates_char, ih]

theorem stringBody_escaped (s rest : List Char) :
    stringBody (s.flatMap escapeChar ++ '"' :: rest) = .ok (String.ofList s, rest) := by
  rw [stringBody, stringPoints_escaped]
  simp [Except.map, joinSurrogates_toNat]

theorem return_not_mem_escapeChar (c : Char) : '\r' ∉ escapeChar c := by
  have hcontrol : ∀ n < 0x20, '\r' ∉ '\\' :: 'u' :: Value.hexText 4 n := by decide +kernel
  unfold escapeChar
  split
  · next h =>
    rw [Bool.or_eq_true, decide_eq_true_eq, decide_eq_true_eq] at h
    rcases h with rfl | rfl <;> decide
  iterate 5
    split
    · decide
  split
  · next h => exact hcontrol _ h
  · next hreturn _ _ _ _ =>
    simpa using Ne.symm hreturn

theorem return_not_mem_quote (s : List Char) : '\r' ∉ quote s := by
  have hchars : '\r' ∉ s.flatMap escapeChar := by
    rw [List.mem_flatMap]
    rintro ⟨c, _, hc⟩
    exact return_not_mem_escapeChar c hc
  simp [quote, hchars]

end ClientCompiler.Json
