import ClientCompiler.Proofs.Json.Syntax

/-!
Strings are read as the syntax has them: what is read up to a closing quote is a row of pieces, and
every row of pieces is read up to its closing quote.
-/

namespace ClientCompiler.Json

variable {cs rest : List Char} {c : Char} {n opened : Nat} {ns : List Nat}

/-! ## Escapes -/

theorem simpleEscape?_eq_some :
    simpleEscape? c = some n ↔ ∃ e ∈ escapes, e.1 = c ∧ e.2.toNat = n := by
  constructor
  · intro h
    unfold simpleEscape? at h
    split at h <;> cases h <;> simp [escapes]
  · rintro ⟨e, he, rfl, rfl⟩
    revert e
    decide

theorem hexValue?_char (h : Hex) : hexValue? h.char = some h.digit.val := by
  obtain ⟨digit, capital⟩ := h
  revert digit capital
  decide

theorem toNat_lt_of_hexValue? (h : hexValue? c = some n) : c.toNat < 128 := by
  have hle (d : Char) (hd : c ≤ d) : c.toNat ≤ d.toNat := hd
  unfold hexValue? isDigit at h
  simp only [Bool.and_eq_true, decide_eq_true_eq] at h
  split at h
  · next hc => exact Nat.lt_of_le_of_lt (hle _ hc.2) (by decide)
  split at h
  · next hc => exact Nat.lt_of_le_of_lt (hle _ hc.2) (by decide)
  split at h
  · next hc => exact Nat.lt_of_le_of_lt (hle _ hc.2) (by decide)
  · cases h

theorem hexValue?_eq_some (h : hexValue? c = some n) :
    ∃ x : Hex, x.char = c ∧ x.digit.val = n := by
  have hall : ∀ k < 128, (hexValue? (Char.ofNat k)).all (fun n =>
      ∃ (d : Fin 16) (b : Bool), (Hex.mk d b).char = Char.ofNat k ∧ d.val = n) = true := by
    decide +kernel
  have hc := hall c.toNat (toNat_lt_of_hexValue? h)
  rw [Char.ofNat_toNat, h] at hc
  obtain ⟨d, b, hchar, hdigit⟩ := of_decide_eq_true hc
  exact ⟨⟨d, b⟩, hchar, hdigit⟩

theorem hexQuad?_chars (a b c d : Hex) :
    hexQuad? a.char b.char c.char d.char = some (Piece.unit a b c d).point := by
  simp [hexQuad?, hexValue?_char, Piece.point]

theorem hexQuad?_eq_some {w x y z : Char} (h : hexQuad? w x y z = some n) :
    ∃ a b c d : Hex, (Piece.unit a b c d).text = ['\\', 'u', w, x, y, z] ∧
      (Piece.unit a b c d).point = n := by
  simp only [hexQuad?, Option.bind_eq_bind, Option.bind_eq_some_iff] at h
  obtain ⟨p, hp, q, hq, r, hr, s, hs, hn⟩ := h
  obtain ⟨a, rfl, rfl⟩ := hexValue?_eq_some hp
  obtain ⟨b, rfl, rfl⟩ := hexValue?_eq_some hq
  obtain ⟨c, rfl, rfl⟩ := hexValue?_eq_some hr
  obtain ⟨d, rfl, rfl⟩ := hexValue?_eq_some hs
  exact ⟨a, b, c, d, rfl, Option.some.inj hn⟩

/-! ## Strings -/

theorem stringTail_cons (p : Piece) (ps : List Piece) :
    stringTail (p :: ps) = p.text ++ stringTail ps := by
  rw [stringTail, List.flatMap_cons, List.append_assoc, ← stringTail]

theorem stringTail_ne_nil (ps : List Piece) (rest : List Char) : stringTail ps ++ rest ≠ [] := by
  simp [stringTail]

theorem stringPoints_piece (p : Piece) (hcs : cs ≠ []) :
    stringPoints opened (p.text ++ cs) = consPoint p.point (stringPoints opened cs) := by
  obtain ⟨e, cs, rfl⟩ := List.exists_cons_of_ne_nil hcs
  cases p with
  | plain c allowed =>
    obtain ⟨_, hbackslash, hcontrol⟩ := allowed
    simp [Piece.text, Piece.point, stringPoints, hbackslash, Nat.not_lt.mpr hcontrol]
  | short x =>
    have hvalue : simpleEscape? x.val.1 = some x.val.2.toNat :=
      simpleEscape?_eq_some.mpr ⟨x.val, x.property, rfl, rfl⟩
    have hunit : x.val.1 ≠ 'u' := by
      intro hu
      rw [hu] at hvalue
      cases hvalue
    simp [Piece.text, Piece.point, stringPoints, hvalue, hunit]
  | unit a b c d =>
    have hvalue := hexQuad?_chars a b c d
    simp only [Piece.text, List.cons_append, List.nil_append, stringPoints, hvalue]

theorem stringPoints_text (opened : Nat) (ps : List Piece) (rest : List Char) :
    stringPoints opened (stringTail ps ++ rest) = .ok (ps.map Piece.point, rest) := by
  induction ps with
  | nil => rfl
  | cons p ps ih =>
    rw [stringTail_cons, List.append_assoc, stringPoints_piece p (stringTail_ne_nil ps rest), ih]
    rfl

theorem stringBody_text (ps : List Piece) (rest : List Char) :
    stringBody (stringTail ps ++ rest) = .ok (stringOf ps, rest) := by
  rw [stringBody, stringPoints_text]
  rfl

theorem consPoint_eq_ok {r : Reading (List Nat)} (h : consPoint n r = .ok (ns, rest)) :
    ∃ ms, r = .ok (ms, rest) ∧ n :: ms = ns := by
  cases r with
  | error e => cases h
  | ok x =>
    obtain ⟨rfl, rfl⟩ := Prod.mk.inj (Except.ok.inj h)
    exact ⟨x.1, rfl, rfl⟩

theorem consPoint_ne_tooLong {r : Reading (List Nat)} (h : r ≠ .error .integerTooLong) :
    consPoint n r ≠ .error .integerTooLong := by
  cases r with
  | error e =>
    intro heq
    exact h (congrArg Except.error (Except.error.inj heq))
  | ok x => nofun

/-- The induction follows the reader; each of its ways on is a kind of piece. -/
theorem stringPoints_eq_ok (h : stringPoints opened cs = .ok (ns, rest)) :
    ∃ ps : List Piece, cs = stringTail ps ++ rest ∧ ps.map Piece.point = ns := by
  fun_induction stringPoints opened cs generalizing ns with
  | case1 => cases h
  | case2 cs =>
    obtain ⟨rfl, rfl⟩ := Prod.mk.inj (Except.ok.inj h)
    exact ⟨[], rfl, rfl⟩
  | case3 => cases h
  | case4 w x y z e cs n hquad ih =>
    obtain ⟨ms, hms, rfl⟩ := consPoint_eq_ok h
    obtain ⟨ps, hps, rfl⟩ := ih hms
    obtain ⟨a, b, c, d, htext, rfl⟩ := hexQuad?_eq_some hquad
    refine ⟨.unit a b c d :: ps, ?_, rfl⟩
    rw [stringTail_cons, htext, List.append_assoc, ← hps]
    rfl
  | case5 => cases h
  | case6 => cases h
  | case7 c cs _ _ n hescape ih =>
    obtain ⟨ms, hms, rfl⟩ := consPoint_eq_ok h
    obtain ⟨ps, rfl, rfl⟩ := ih hms
    obtain ⟨e, he, rfl, rfl⟩ := simpleEscape?_eq_some.mp hescape
    refine ⟨.short ⟨e, he⟩ :: ps, ?_, rfl⟩
    rw [stringTail_cons, List.append_assoc]
    rfl
  | case8 => cases h
  | case9 => cases h
  | case10 c cs hquote hend _ _ hpair hcontrol ih =>
    have hbackslash : c ≠ '\\' := by
      rintro rfl
      cases cs with
      | nil => exact hend rfl rfl
      | cons d cs => exact hpair d cs rfl rfl
    obtain ⟨ms, hms, rfl⟩ := consPoint_eq_ok h
    obtain ⟨ps, rfl, rfl⟩ := ih hms
    exact ⟨.plain c ⟨hquote, hbackslash, Nat.le_of_not_lt hcontrol⟩ :: ps, rfl, rfl⟩

theorem stringPoints_ne_tooLong (opened : Nat) (cs : List Char) :
    stringPoints opened cs ≠ .error .integerTooLong := by
  fun_induction stringPoints opened cs with
  | case4 w x y z e cs n hquad ih => exact consPoint_ne_tooLong ih
  | case7 c cs _ _ n hescape ih => exact consPoint_ne_tooLong ih
  | case10 c cs _ _ _ _ _ hcontrol ih => exact consPoint_ne_tooLong ih
  | _ => nofun

theorem stringBody_eq_ok {s : String} (h : stringBody cs = .ok (s, rest)) :
    ∃ ps : List Piece, cs = stringTail ps ++ rest ∧ stringOf ps = s := by
  rw [stringBody] at h
  cases hpoints : stringPoints (cs.length + 1) cs with
  | error e =>
    rw [hpoints] at h
    cases h
  | ok x =>
    rw [hpoints] at h
    obtain ⟨rfl, rfl⟩ := Prod.mk.inj (Except.ok.inj h)
    obtain ⟨ps, hcs, hps⟩ := stringPoints_eq_ok hpoints
    exact ⟨ps, hcs, by rw [stringOf, hps]⟩

theorem stringBody_ne_tooLong (cs : List Char) : stringBody cs ≠ .error .integerTooLong := by
  have hpoints := stringPoints_ne_tooLong (cs.length + 1) cs
  intro h
  rw [stringBody] at h
  cases hread : stringPoints (cs.length + 1) cs with
  | error e =>
    rw [hread] at h hpoints
    exact hpoints (congrArg Except.error (Except.error.inj h))
  | ok x =>
    rw [hread] at h
    cases h

end ClientCompiler.Json
