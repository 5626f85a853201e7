import ClientCompiler.Proofs.Json.Numbers
import ClientCompiler.Proofs.Json.Syntax
import Mathlib.Data.List.Induction
import Mathlib.Data.List.TakeWhile

/-!
Numbers are read as the syntax has them. What is read is a numeral with its value, every numeral is
read before a character that cannot go on with it, and the only other way to stop at a number is an
integer that is too long.
-/

namespace ClientCompiler.Json

/-- No number goes on with the text. -/
def Ends (cs : List Char) : Prop :=
  ∀ c ∈ cs.head?, c.isDigit = false ∧ c ≠ '.' ∧ c ≠ 'e' ∧ c ≠ 'E'

variable {cs r rest ds : List Char} {c : Char} {v : Value} {e : Int}

theorem ends_nil : Ends [] := nofun

theorem ends_cons :
    Ends (c :: cs) ↔ c.isDigit = false ∧ c ≠ '.' ∧ c ≠ 'e' ∧ c ≠ 'E' := by
  simp [Ends]

theorem Delimits.ends (h : Delimits cs) : Ends cs := by
  cases cs with
  | nil => exact ends_nil
  | cons c cs => rcases h with rfl | rfl <;> exact ends_cons.mpr (by decide)

/-! ## Runs of digits -/

theorem isDigit_eq (c : Char) : isDigit c = c.isDigit := rfl

theorem digitRun_eq (cs : List Char) :
    (digitRun cs).1 ++ (digitRun cs).2 = cs := List.takeWhile_append_dropWhile

theorem isDigit_of_mem_digitRun (h : c ∈ (digitRun cs).1) : c.isDigit = true :=
  List.mem_takeWhile_imp h

theorem not_isDigit_after_digitRun (h : c ∈ (digitRun cs).2.head?) : c.isDigit = false := by
  have hnot := List.head?_dropWhile_not isDigit cs
  rw [digitRun, Option.mem_def] at h
  rw [h] at hnot
  exact hnot

theorem digitRun_append (hds : ∀ c ∈ ds, isDigit c = true)
    (hrest : ∀ c ∈ rest.head?, c.isDigit = false) : digitRun (ds ++ rest) = (ds, rest) := by
  have htake : rest.takeWhile isDigit = [] := by
    cases rest with
    | nil => rfl
    | cons c rest => exact List.takeWhile_cons_of_neg (by simp [isDigit_eq, hrest c rfl])
  have hdrop : rest.dropWhile isDigit = rest := by
    cases rest with
    | nil => rfl
    | cons c rest => exact List.dropWhile_cons_of_neg (by simp [isDigit_eq, hrest c rfl])
  rw [digitRun, List.takeWhile_append_of_pos hds, List.dropWhile_append_of_pos hds, htake, hdrop,
    List.append_nil]

def runOf (cs : List Char) (h : (digitRun cs).1 ≠ []) : Digits :=
  ⟨(digitRun cs).1, h, fun _ => isDigit_of_mem_digitRun⟩

theorem digitRun_ne_nil (h : isDigit c = true) (cs : List Char) :
    (digitRun (c :: cs)).1 ≠ [] := by
  rw [digitRun, List.takeWhile_cons_of_pos h]
  exact List.cons_ne_nil _ _

theorem Digits.exists_cons (ds : Digits) : ∃ c cs, ds.val = c :: cs ∧ isDigit c = true := by
  obtain ⟨c, cs, heq⟩ := List.exists_cons_of_ne_nil ds.property.1
  exact ⟨c, cs, heq, ds.property.2 c (heq ▸ List.mem_cons_self)⟩

/-! ## Fractions and powers -/

theorem fraction?_dot (h : isDigit c = true) (cs : List Char) :
    fraction? ('.' :: c :: cs) = some (digitRun (c :: cs)) := if_pos h

theorem fraction?_eq_some (h : fraction? cs = some (ds, r)) :
    ∃ f : Digits, cs = Numeral.fractionText (some f) ++ r ∧ f.val = ds := by
  unfold fraction? at h
  split at h
  · next c cs =>
    split at h
    · next hdigit =>
      have hrun := Option.some.inj h
      have hall := digitRun_eq (c :: cs)
      refine ⟨runOf (c :: cs) (digitRun_ne_nil hdigit cs), ?_, congrArg Prod.fst hrun⟩
      rw [hrun] at hall
      simp only [Numeral.fractionText, runOf, hrun, List.cons_append, hall]
    · cases h
  · cases h

theorem fraction?_text (f : Digits) (hrest : ∀ c ∈ rest.head?, c.isDigit = false) :
    fraction? (Numeral.fractionText (some f) ++ rest) = some (f.val, rest) := by
  obtain ⟨c, cs, heq, hdigit⟩ := Digits.exists_cons f
  have hrun := digitRun_append f.property.2 hrest
  rw [heq] at hrun
  rw [Numeral.fractionText, heq]
  exact (fraction?_dot hdigit (cs ++ rest)).trans (congrArg some hrun)

theorem fraction?_ne_none (f : Digits) (rest : List Char) :
    fraction? (Numeral.fractionText (some f) ++ rest) ≠ none := by
  obtain ⟨c, cs, heq, hdigit⟩ := Digits.exists_cons f
  rw [Numeral.fractionText, heq]
  exact ne_of_eq_of_ne (fraction?_dot hdigit (cs ++ rest)) (Option.some_ne_none _)

theorem fraction?_of_ne_dot (h : ∀ c ∈ cs.head?, c ≠ '.') : fraction? cs = none := by
  unfold fraction?
  split
  · exact absurd rfl (h '.' rfl)
  · rfl

theorem signed_eq (cs : List Char) :
    ∃ sign, cs = Power.signText sign ++ (signed cs).2 ∧
      (signed cs).1 = decide (sign = some true) := by
  unfold signed
  split
  · exact ⟨some true, rfl, rfl⟩
  · exact ⟨some false, rfl, rfl⟩
  · exact ⟨none, rfl, rfl⟩

theorem signed_text (sign : Option Bool) (hdigit : isDigit c = true) (cs : List Char) :
    signed (Power.signText sign ++ c :: cs) = (decide (sign = some true), c :: cs) := by
  rcases sign with _ | _ | _
  · change signed (c :: cs) = (false, c :: cs)
    unfold signed
    split
    · next heq => rw [(List.cons.inj heq).1] at hdigit; cases hdigit
    · next heq => rw [(List.cons.inj heq).1] at hdigit; cases hdigit
    · rfl
  · rfl
  · rfl

def powerOf? (negative : Bool) (run : List Char × List Char) : Option (Int × List Char) :=
  if run.1 = [] then none else some (withSign negative (ofDigits run.1), run.2)

theorem exponent?_letter (hletter : c = 'e' ∨ c = 'E') (cs : List Char) :
    exponent? (c :: cs) = powerOf? (signed cs).1 (digitRun (signed cs).2) := by
  rw [exponent?_cons, if_pos (by simpa using hletter)]
  obtain ⟨run, after⟩ := digitRun (signed cs).2
  cases run <;> rfl

theorem Power.letter (p : Power) :
    (if p.capital then 'E' else 'e') = 'e' ∨ (if p.capital then 'E' else 'e') = 'E' := by
  cases p.capital <;> decide

theorem exponent?_power (p : Power) (rest : List Char) :
    exponent? (p.text ++ rest) =
      powerOf? (p.sign = some true) (digitRun (p.digits.val ++ rest)) := by
  obtain ⟨c, cs, heq, hdigit⟩ := Digits.exists_cons p.digits
  rw [Power.text, List.cons_append, exponent?_letter p.letter, List.append_assoc, heq,
    List.cons_append, signed_text p.sign hdigit]

theorem exponent?_text (p : Power) (hrest : Ends rest) :
    exponent? (p.text ++ rest) = some (p.exponent, rest) := by
  rw [exponent?_power, digitRun_append p.digits.property.2 fun c hc => (hrest c hc).1]
  exact if_neg p.digits.property.1

theorem exponent?_ne_none (p : Power) (rest : List Char) : exponent? (p.text ++ rest) ≠ none := by
  obtain ⟨c, cs, heq, hdigit⟩ := Digits.exists_cons p.digits
  rw [exponent?_power, heq, List.cons_append, powerOf?, if_neg (digitRun_ne_nil hdigit _)]
  exact Option.some_ne_none _

theorem exponent?_of_no_letter (h : ∀ c ∈ cs.head?, c ≠ 'e' ∧ c ≠ 'E') : exponent? cs = none := by
  cases cs with
  | nil => rfl
  | cons c cs =>
    obtain ⟨hsmall, hcapital⟩ := h c rfl
    rw [exponent?_cons, if_neg (by simp [hsmall, hcapital])]

theorem exponent?_eq_some (h : exponent? cs = some (e, r)) :
    ∃ p : Power, cs = p.text ++ r ∧ p.exponent = e := by
  cases cs with
  | nil => cases h
  | cons x cs =>
    by_cases hletter : x = 'e' ∨ x = 'E'
    · rw [exponent?_letter hletter, powerOf?] at h
      split at h
      · cases h
      · next hne =>
        obtain ⟨rfl, rfl⟩ := Prod.mk.inj (Option.some.inj h)
        obtain ⟨sign, hsign, hnegative⟩ := signed_eq cs
        have hx : (if decide (x = 'E') then 'E' else 'e') = x := by
          rcases hletter with rfl | rfl <;> rfl
        refine ⟨⟨x = 'E', sign, runOf (signed cs).2 hne⟩, ?_, ?_⟩
        · rw [Power.text, hx, List.cons_append, List.append_assoc, runOf, digitRun_eq, ← hsign]
        · rw [Power.exponent, hnegative, runOf]
    · rw [exponent?_of_no_letter fun c hc => ?_] at h
      · cases h
      · obtain rfl := Option.some.inj hc
        exact not_or.mp hletter

/-! ## Numerals -/

theorem not_continues (hfraction : fraction? rest = none) (hpower : exponent? rest = none)
    (hdigit : ∀ c ∈ rest.head?, c.isDigit = false) : ¬ Continues rest := by
  intro h
  cases h with
  | digit hc => exact absurd hc (by rw [hdigit _ rfl]; exact Bool.false_ne_true)
  | fraction ds after => exact fraction?_ne_none ds after hfraction
  | power p after => exact exponent?_ne_none p after hpower

theorem head_powerText (power : Option Power) (hrest : Ends rest) :
    ∀ c ∈ (Numeral.powerText power ++ rest).head?, c.isDigit = false ∧ c ≠ '.' := by
  intro c hc
  cases power with
  | none => exact ⟨(hrest c hc).1, (hrest c hc).2.1⟩
  | some p =>
    obtain rfl := Option.some.inj hc
    rcases p.letter with hletter | hletter <;> rw [hletter] <;> decide

theorem exponent?_powerText (power : Option Power) (hrest : Ends rest) :
    exponent? (Numeral.powerText power ++ rest) = power.map fun p => (p.exponent, rest) := by
  cases power with
  | none => exact exponent?_of_no_letter fun c hc => (hrest c hc).2.2
  | some p => exact exponent?_text p hrest

theorem fraction?_fractionText (fraction : Option Digits) {cs : List Char}
    (h : ∀ c ∈ cs.head?, c.isDigit = false ∧ c ≠ '.') :
    fraction? (Numeral.fractionText fraction ++ cs) = fraction.map fun ds => (ds.val, cs) := by
  cases fraction with
  | none => exact fraction?_of_ne_dot fun c hc => (h c hc).2
  | some ds => exact fraction?_text ds fun c hc => (h c hc).1

/-- What was read as a number is a numeral, and one of few enough digits if it is an integer. -/
def ReadsNumeral (cs : List Char) (v : Value) (r : List Char) : Prop :=
  ∃ n : Numeral, cs = n.text ++ r ∧ n.value = v ∧
    (n.isInteger = true → n.whole.val.length ≤ maxIntegerDigits)

section Tail

variable {negative : Bool} {whole : Digits} (hzeros : whole.val.head? = some '0' → whole.val = ['0'])

include hzeros

theorem readsNumeral_of_tail (h : numberTail negative whole.val cs = .ok (v, r)) :
    ReadsNumeral ((if negative then ['-'] else []) ++ (whole.val ++ cs)) v r := by
  unfold numberTail at h
  cases hfraction : fraction? cs with
  | none =>
    simp only [hfraction] at h
    cases hpower : exponent? cs with
    | none =>
      simp only [hpower, if_true] at h
      split at h
      · cases h
      · next hlength =>
        obtain ⟨rfl, rfl⟩ := Prod.mk.inj (Except.ok.inj h)
        refine ⟨⟨negative, whole, hzeros, none, none⟩, ?_, rfl, fun _ => Nat.le_of_not_lt hlength⟩
        simp [Numeral.text, Numeral.fractionText, Numeral.powerText]
    | some x =>
      simp only [hpower] at h
      obtain ⟨rfl, rfl⟩ := Prod.mk.inj (Except.ok.inj h)
      obtain ⟨p, rfl, hexponent⟩ := exponent?_eq_some hpower
      refine ⟨⟨negative, whole, hzeros, none, some p⟩, ?_, ?_, nofun⟩
      · simp [Numeral.text, Numeral.fractionText, Numeral.powerText]
      · simp [Numeral.value, Numeral.isInteger, Numeral.exponent, Numeral.decimals, hexponent]
  | some f =>
    obtain ⟨ds, rfl, hds⟩ := fraction?_eq_some hfraction
    simp only [hfraction] at h
    cases hpower : exponent? f.2 with
    | none =>
      simp only [hpower] at h
      obtain ⟨rfl, rfl⟩ := Prod.mk.inj (Except.ok.inj h)
      refine ⟨⟨negative, whole, hzeros, some ds, none⟩, ?_, ?_, nofun⟩
      · simp [Numeral.text, Numeral.powerText]
      · simp [Numeral.value, Numeral.isInteger, Numeral.exponent, Numeral.decimals, hds]
    | some x =>
      simp only [hpower] at h
      obtain ⟨rfl, rfl⟩ := Prod.mk.inj (Except.ok.inj h)
      obtain ⟨p, hp, hexponent⟩ := exponent?_eq_some hpower
      refine ⟨⟨negative, whole, hzeros, some ds, some p⟩, ?_, ?_, nofun⟩
      · simp [Numeral.text, Numeral.powerText, hp]
      · simp [Numeral.value, Numeral.isInteger, Numeral.exponent, Numeral.decimals, hds, hexponent]

theorem longInteger_of_tail
    (hdigit : maxIntegerDigits < whole.val.length → ∀ c ∈ cs.head?, c.isDigit = false)
    (h : numberTail negative whole.val cs = .error .integerTooLong) :
    LongInteger ((if negative then ['-'] else []) ++ (whole.val ++ cs)) := by
  unfold numberTail at h
  cases hfraction : fraction? cs with
  | none =>
    simp only [hfraction] at h
    cases hpower : exponent? cs with
    | none =>
      simp only [hpower, if_true] at h
      split at h
      · next hlength =>
        refine ⟨⟨negative, whole, hzeros, none, none⟩, cs, ?_, rfl, hlength,
          not_continues hfraction hpower (hdigit hlength)⟩
        simp [Numeral.text, Numeral.fractionText, Numeral.powerText]
      · cases h
    | some x =>
      simp only [hpower] at h
      cases h
  | some f =>
    simp only [hfraction] at h
    cases hpower : exponent? f.2 with
    | none =>
      simp only [hpower] at h
      cases h
    | some x =>
      simp only [hpower] at h
      cases h

end Tail

theorem numberTail_text (n : Numeral) (hrest : Ends rest) :
    numberTail n.negative n.whole.val
        (Numeral.fractionText n.fraction ++ (Numeral.powerText n.power ++ rest)) =
      if n.isInteger ∧ maxIntegerDigits < n.whole.val.length then .error .integerTooLong
      else .ok (n.value, rest) := by
  have hfraction := fraction?_fractionText n.fraction (head_powerText n.power hrest)
  have hpower := exponent?_powerText n.power hrest
  obtain ⟨negative, whole, hzeros, fraction, power⟩ := n
  cases fraction <;> cases power <;>
    simp only [Numeral.fractionText, Numeral.powerText, Option.map_none, Option.map_some,
      List.nil_append, List.cons_append] at hfraction hpower ⊢ <;>
    simp [numberTail, hfraction, hpower, Numeral.value, Numeral.isInteger, Numeral.exponent,
      Numeral.decimals, withSign]

theorem number_eq (cs : List Char) : ∃ negative body,
    cs = (if negative then ['-'] else []) ++ body ∧ number cs = unsignedNumber negative cs body := by
  cases cs with
  | nil => exact ⟨false, [], rfl, rfl⟩
  | cons c cs =>
    by_cases hminus : c = '-'
    · subst hminus
      exact ⟨true, cs, rfl, number_minus cs⟩
    · exact ⟨false, c :: cs, rfl, number_unsigned hminus cs⟩

theorem unsignedNumber_cases (negative : Bool) (text cs : List Char) :
    unsignedNumber negative text cs = refuse .value text ∨
      ∃ (whole : Digits) (tail : List Char), (whole.val.head? = some '0' → whole.val = ['0']) ∧
        cs = whole.val ++ tail ∧
        (maxIntegerDigits < whole.val.length → ∀ c ∈ tail.head?, c.isDigit = false) ∧
        unsignedNumber negative text cs = numberTail negative whole.val tail := by
  cases cs with
  | nil => exact .inl rfl
  | cons c cs =>
    by_cases hzero : c = '0'
    · subst hzero
      have hdigits : ∀ d ∈ ['0'], d.isDigit = true := List.forall_mem_singleton.mpr rfl
      exact .inr ⟨⟨['0'], List.cons_ne_nil _ _, hdigits⟩, cs, fun _ => rfl, rfl,
        fun h => absurd h (by decide : ¬ maxIntegerDigits < 1), rfl⟩
    · simp only [unsignedNumber]
      split
      · next hdigit =>
        have hne := digitRun_ne_nil hdigit cs
        have hall := digitRun_eq (c :: cs)
        have hfirst : (runOf (c :: cs) hne).val = c :: cs.takeWhile isDigit :=
          List.takeWhile_cons_of_pos hdigit
        refine .inr ⟨runOf (c :: cs) hne, (digitRun (c :: cs)).2, fun hhead => ?_, hall.symm,
          fun _ d hd => not_isDigit_after_digitRun hd, rfl⟩
        rw [hfirst] at hhead
        exact absurd (Option.some.inj hhead) hzero
      · exact .inl rfl

theorem readsNumeral_of_number (h : number cs = .ok (v, r)) : ReadsNumeral cs v r := by
  obtain ⟨negative, body, hcs, hnumber⟩ := number_eq cs
  rcases unsignedNumber_cases negative cs body with hrefused | ⟨whole, tail, hzeros, rfl, -, htail⟩
  · rw [hnumber, hrefused] at h
    cases h
  · rw [hnumber, htail] at h
    rw [hcs]
    exact readsNumeral_of_tail hzeros h

theorem longInteger_of_number (h : number cs = .error .integerTooLong) : LongInteger cs := by
  obtain ⟨negative, body, hcs, hnumber⟩ := number_eq cs
  rcases unsignedNumber_cases negative cs body with
    hrefused | ⟨whole, tail, hzeros, rfl, hdigit, htail⟩
  · rw [hnumber, hrefused] at h
    cases h
  · rw [hnumber, htail] at h
    rw [hcs]
    exact longInteger_of_tail hzeros hdigit h

theorem unsignedNumber_text (negative : Bool) {whole : Digits} (text : List Char)
    (hzeros : whole.val.head? = some '0' → whole.val = ['0'])
    (htail : ∀ c ∈ cs.head?, c.isDigit = false) :
    unsignedNumber negative text (whole.val ++ cs) = numberTail negative whole.val cs := by
  obtain ⟨c, ds, heq, hdigit⟩ := Digits.exists_cons whole
  by_cases hzero : c = '0'
  · subst hzero
    rw [hzeros (by rw [heq]; rfl)]
    rfl
  · have hrun := digitRun_append whole.property.2 htail
    rw [heq, List.cons_append] at hrun ⊢
    simp only [unsignedNumber, if_pos hdigit, hrun]

theorem head_numberTail (n : Numeral) (hrest : Ends rest) : ∀ c ∈ (Numeral.fractionText n.fraction ++
    (Numeral.powerText n.power ++ rest)).head?, c.isDigit = false := by
  intro c hc
  cases hfraction : n.fraction with
  | none =>
    rw [hfraction] at hc
    exact (head_powerText n.power hrest c hc).1
  | some ds =>
    rw [hfraction] at hc
    obtain rfl := Option.some.inj hc
    rfl

theorem number_text (n : Numeral) (hrest : Ends rest) :
    number (n.text ++ rest) =
      if n.isInteger ∧ maxIntegerDigits < n.whole.val.length then .error .integerTooLong
      else .ok (n.value, rest) := by
  have htext : n.text ++ rest = (if n.negative then ['-'] else []) ++ (n.whole.val ++
      (Numeral.fractionText n.fraction ++ (Numeral.powerText n.power ++ rest))) := by
    simp only [Numeral.text, List.append_assoc]
  have htail (text : List Char) := unsignedNumber_text n.negative text n.noZeros
    (head_numberTail n hrest)
  rw [htext, ← numberTail_text n hrest]
  cases hnegative : n.negative with
  | true =>
    rw [hnegative] at htail
    exact (number_minus _).trans (htail _)
  | false =>
    rw [hnegative] at htail
    obtain ⟨c, ds, heq, hdigit⟩ := Digits.exists_cons n.whole
    have hminus : c ≠ '-' := by
      rintro rfl
      cases hdigit
    rw [heq] at htail ⊢
    exact (number_unsigned hminus _).trans (htail _)

theorem startsNumber_text (n : Numeral) (rest : List Char) : StartsNumber (n.text ++ rest) := by
  obtain ⟨c, ds, heq, hdigit⟩ := Digits.exists_cons n.whole
  rw [Numeral.text, heq]
  cases n.negative with
  | true => exact ⟨c, _, hdigit, .inr rfl⟩
  | false => exact ⟨c, _, hdigit, .inl rfl⟩

theorem startsNumber_of_number (h : number cs = .ok (v, r)) : StartsNumber cs := by
  obtain ⟨n, rfl, -, -⟩ := readsNumeral_of_number h
  exact startsNumber_text n r

theorem value_of_number (h : number cs = .ok (v, [])) (hrest : Delimits rest) (fuel : Nat) :
    value (fuel + 1) (cs ++ rest) = .ok (v, rest) := by
  obtain ⟨n, htext, rfl, hlength⟩ := readsNumeral_of_number h
  rw [List.append_nil] at htext
  subst htext
  rw [value_of_startsNumber (startsNumber_text n rest), number_text n hrest.ends, if_neg]
  exact fun ⟨hinteger, hlong⟩ => Nat.not_lt.mpr (hlength hinteger) hlong

theorem digitValue_lt (h : c.isDigit = true) : digitValue c < 10 := by
  have hnine : c.toNat ≤ 57 := (Char.isDigit_iff_toNat.mp h).2
  have hzero : '0'.toNat = 48 := rfl
  rw [digitValue, hzero]
  omega

/-- A number has at most as many digits as there are in its text. -/
theorem ofDigits_lt (h : ∀ c ∈ ds, c.isDigit = true) : ofDigits ds < Nat.pow 10 ds.length := by
  induction ds using List.reverseRecOn with
  | nil => exact Nat.one_pos
  | append_singleton ds c ih =>
    obtain ⟨hds, hc⟩ := List.forall_mem_append.mp h
    have hdigit := digitValue_lt (hc c List.mem_cons_self)
    have hinit := ih hds
    have happend : ofDigits (ds ++ [c]) = ofDigits ds * 10 + digitValue c := by
      rw [ofDigits, List.foldl_append]
      rfl
    have hpow : Nat.pow 10 (ds ++ [c]).length = Nat.pow 10 ds.length * 10 := by
      rw [List.length_append]
      rfl
    omega

theorem isWritableInteger_withSign (negative : Bool) {whole : Digits}
    (h : whole.val.length ≤ maxIntegerDigits) :
    Value.isWritableInteger (withSign negative (ofDigits whole.val)) = true := by
  have hsize : ofDigits whole.val < Nat.pow 10 4300 :=
    (ofDigits_lt whole.property.2).trans_le (Nat.pow_le_pow_right (by decide) h)
  have habs : (withSign negative (ofDigits whole.val)).natAbs = ofDigits whole.val := by
    cases negative
    · rfl
    · exact Int.natAbs_neg _
  rw [Value.isWritableInteger, habs]
  exact decide_eq_true hsize

/-! ## Integers -/

def digitsOf (n : Nat) : Digits :=
  ⟨natDigits n, natDigits_ne_nil n, fun _ => isDigit_of_mem_natDigits⟩

theorem ofDigits_digitsOf (n : Nat) : ofDigits (digitsOf n).val = n := ofDigits_natDigits n

def Numeral.ofInt (i : Int) : Numeral where
  negative := i < 0
  whole := digitsOf i.natAbs
  noZeros := natDigits_of_head
  fraction := none
  power := none

theorem Numeral.text_ofInt (i : Int) : (ofInt i).text = intText i := by
  simp only [text, ofInt, fractionText, powerText, List.append_nil, intText, decide_eq_true_eq]
  split <;> rfl

theorem Numeral.value_ofInt (i : Int) : (ofInt i).value = .int i := by
  have hi : withSign (i < 0) i.natAbs = i := by
    simp only [withSign, decide_eq_true_eq]
    split <;> omega
  simp only [value, ofInt, isInteger, Option.isNone_none, Bool.and_self, if_true,
    ofDigits_digitsOf, hi]

theorem number_intText {i : Int} (h : Value.isWritableInteger i = true) :
    number (intText i) = .ok (.int i, []) := by
  have hread := number_text (Numeral.ofInt i) ends_nil
  have hshort : ¬ maxIntegerDigits < (Numeral.ofInt i).whole.val.length :=
    Nat.not_lt.mpr (length_natDigits h)
  rwa [Numeral.text_ofInt, Numeral.value_ofInt, List.append_nil, if_neg fun hlong =>
    hshort hlong.2] at hread

end ClientCompiler.Json
