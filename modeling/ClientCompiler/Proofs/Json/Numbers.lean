import ClientCompiler.Json.Reader
import ClientCompiler.Json.Writer
import ClientCompiler.Number.Reading

/-!
Numbers in JSON: the digits that are written for them, how reading one begins, and which floating
point numbers are read back from their texts.
-/

namespace ClientCompiler

theorem ofDigits_eq (ds : List Char) : ofDigits ds = Nat.ofDigitChars 10 ds 0 := by
  unfold ofDigits Nat.ofDigitChars digitValue
  congr 1
  funext n c
  rw [Nat.mul_comm]

theorem ofDigits_natDigits (n : Nat) : ofDigits (natDigits n) = n := by
  rw [ofDigits_eq]
  exact Nat.ofDigitChars_ten_toDigits

theorem natDigits_ne_nil (n : Nat) : natDigits n ≠ [] := Nat.toDigits_ne_nil

theorem head_natDigits {n : Nat} (h : 0 < n) : ∃ c cs, natDigits n = c :: cs ∧ c ≠ '0' := by
  induction n using Nat.strongRecOn with
  | ind n ih =>
    unfold natDigits at ih ⊢
    rw [Nat.toDigits_eq_if (by decide)]
    split
    · next hsmall =>
      have hdigits : ∀ d < 10, 0 < d → Nat.digitChar d ≠ '0' := by decide
      exact ⟨_, [], rfl, hdigits n hsmall h⟩
    · obtain ⟨c, cs, hcs, hc⟩ := ih (n / 10) (by omega) (by omega)
      exact ⟨c, _, by rw [hcs]; rfl, hc⟩

theorem natDigits_of_head {n : Nat} (h : (natDigits n).head? = some '0') : natDigits n = ['0'] := by
  rcases Nat.eq_zero_or_pos n with rfl | hpos
  · rfl
  · obtain ⟨c, cs, hcs, hc⟩ := head_natDigits hpos
    rw [hcs] at h
    exact absurd (Option.some.inj h) hc

namespace Json

theorem isDigit_of_mem_natDigits {n : Nat} {c : Char} (h : c ∈ natDigits n) : isDigit c = true := by
  have hdigit := Nat.isDigit_of_mem_toDigits (by decide) (by decide) h
  simpa [Char.isDigit, isDigit, Char.le_def] using hdigit

/-- What is read after the sign of a number, where `text` is the number with its sign. -/
def unsignedNumber (negative : Bool) (text : List Char) : List Char → Reading Value
  | '0' :: r => numberTail negative ['0'] r
  | c :: r =>
    if isDigit c then numberTail negative (digitRun (c :: r)).1 (digitRun (c :: r)).2
    else refuse .value text
  | [] => refuse .value text

theorem number_minus (cs : List Char) : number ('-' :: cs) = unsignedNumber true ('-' :: cs) cs :=
  rfl

theorem number_unsigned {c : Char} (h : c ≠ '-') (cs : List Char) :
    number (c :: cs) = unsignedNumber false (c :: cs) (c :: cs) := by
  unfold number
  split
  next negative body hsign =>
  split at hsign
  · next hminus => exact absurd (List.cons.inj hminus).1 h
  · obtain ⟨rfl, rfl⟩ := Prod.mk.inj hsign
    rfl

/-- The end of a text, or the end of an item or of its line. -/
def Delimits : List Char → Prop
  | [] => True
  | c :: _ => c = ',' ∨ c = '\n'

theorem exponent?_cons (e : Char) (cs : List Char) :
    exponent? (e :: cs) =
      if e = 'e' || e = 'E' then
        match digitRun (signed cs).2 with
        | ([], _) => none
        | (run, rest) => some (withSign (signed cs).1 (ofDigits run), rest)
      else none := by
  unfold exponent? signed withSign
  split
  · next h =>
    simp only [List.cons.injEq] at h
    obtain ⟨rfl, rfl⟩ := h
    split <;> rfl
  · next h => cases h

def StartsNumber (cs : List Char) : Prop :=
  ∃ c r, isDigit c = true ∧ (cs = c :: r ∨ cs = '-' :: c :: r)

theorem length_natDigits {i : Int} (h : Value.isWritableInteger i = true) :
    (natDigits i.natAbs).length ≤ maxIntegerDigits := by
  have hsize : i.natAbs < 10 ^ maxIntegerDigits := of_decide_eq_true h
  exact (Nat.length_toDigits_le_iff (by decide) (by decide)).mpr hsize

theorem value_of_startsNumber {cs : List Char} (h : StartsNumber cs) (fuel : Nat) :
    value (fuel + 1) cs = number cs := by
  obtain ⟨c, r, hdigit, rfl | rfl⟩ := h
  · rw [value]
    all_goals
      intro _ hcs
      cases hcs
      cases hdigit
  · rw [value]
    all_goals
      intro _ hcs
      cases hcs
    cases hdigit

/-- Whether a floating point number is read back from its text: each but the one that is no number,
if the shortest decimal that was found for it denotes it. -/
def readsBack : Double → Bool
  | .nan => false
  | .infinite _ => true
  | .finite negative m e =>
    match number (Double.finite negative m e).text with
    | .ok (.float x, []) => x == .finite negative m e
    | _ => false

theorem number_of_readsBack {negative : Bool} {m : Nat} {e : Int}
    (h : readsBack (.finite negative m e) = true) :
    number (Double.finite negative m e).text = .ok (.float (.finite negative m e), []) := by
  simp only [readsBack] at h
  split at h
  · next x hx => rw [hx, eq_of_beq h]
  · cases h

section Return

/-! No number holds a carriage return. -/

theorem return_not_mem_natDigits (n : Nat) : '\r' ∉ natDigits n := by
  intro h
  cases isDigit_of_mem_natDigits h

theorem return_not_mem_intText (i : Int) : '\r' ∉ intText i := by
  unfold intText
  split <;> simp [return_not_mem_natDigits]

theorem return_not_mem_decimal (t : Double.Decimal) : '\r' ∉ t.text := by
  have hdigits := return_not_mem_natDigits t.digits
  have htake (n : Nat) : '\r' ∉ (natDigits t.digits).take n := fun h =>
    hdigits (List.mem_of_mem_take h)
  have hdrop (n : Nat) : '\r' ∉ (natDigits t.digits).drop n := fun h =>
    hdigits (List.mem_of_mem_drop h)
  unfold Double.Decimal.text
  dsimp only
  split
  · split
    · simp [hdigits]
    · split <;> simp [htake, hdrop]
  · have hpower := return_not_mem_natDigits
    have htail : '\r' ∉ (natDigits t.digits).tail := fun h => hdigits (List.mem_of_mem_tail h)
    split <;> split <;> split <;> simp [htake, htail, hpower]

theorem return_not_mem_floatText (x : Double) : '\r' ∉ floatText x := by
  cases x with
  | nan => decide
  | infinite negative => cases negative <;> decide
  | finite negative m e =>
    have hbody : '\r' ∉ (if m = 0 then ['0', '.', '0'] else (Double.shortest m e).text) := by
      split
      · decide
      · exact return_not_mem_decimal _
    cases negative with
    | false => exact hbody
    | true => exact List.not_mem_cons_of_ne_of_not_mem (by decide) hbody

end Return

end Json
end ClientCompiler
