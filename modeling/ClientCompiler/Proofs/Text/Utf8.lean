import ClientCompiler.Text.Utf8

/-!
Text in UTF-8 is read back. The octets of a character stand for that character, whatever octets
follow them.
-/

namespace ClientCompiler.Text

section Reading

variable {a b c d : UInt8} {x y z : Nat} {r : Char} (rest : List UInt8)

theorem decode?_one (h : a.toNat < 0x80) :
    decode? (a :: rest) = (decode? rest).map (Char.ofNat a.toNat :: ·) := by
  conv => lhs; unfold decode?
  simp only [h, if_true]

theorem decode?_two (hleast : 0xC0 ≤ a.toNat) (hmost : a.toNat < 0xE0)
    (hb : trailingBits? b = some x) (hr : charFrom? 0x80 ((a.toNat - 0xC0) * 64 + x) = some r) :
    decode? (a :: b :: rest) = (decode? rest).map (r :: ·) := by
  rw [decode?]
  have h80 : ¬a.toNat < 0x80 := by omega
  have hC0 : ¬a.toNat < 0xC0 := by omega
  simp only [h80, hC0, hmost, if_true, if_false, hb, hr, Option.bind_eq_bind,
    Option.bind_some]
  cases decode? rest <;> rfl

theorem decode?_three (hleast : 0xE0 ≤ a.toNat) (hmost : a.toNat < 0xF0)
    (hb : trailingBits? b = some x) (hc : trailingBits? c = some y)
    (hr : charFrom? 0x800 (((a.toNat - 0xE0) * 64 + x) * 64 + y) = some r) :
    decode? (a :: b :: c :: rest) = (decode? rest).map (r :: ·) := by
  rw [decode?]
  have h80 : ¬a.toNat < 0x80 := by omega
  have hE0 : ¬a.toNat < 0xE0 := by omega
  simp only [h80, hE0, hmost, if_true, if_false, hb, hc, hr, Option.bind_eq_bind,
    Option.bind_some]
  cases decode? rest <;> rfl

theorem decode?_four (hleast : 0xF0 ≤ a.toNat) (hb : trailingBits? b = some x)
    (hc : trailingBits? c = some y) (hd : trailingBits? d = some z)
    (hr : charFrom? 0x10000 ((((a.toNat - 0xF0) * 64 + x) * 64 + y) * 64 + z) = some r) :
    decode? (a :: b :: c :: d :: rest) = (decode? rest).map (r :: ·) := by
  rw [decode?]
  have h80 : ¬a.toNat < 0x80 := by omega
  have hE0 : ¬a.toNat < 0xE0 := by omega
  have hF0 : ¬a.toNat < 0xF0 := by omega
  simp only [h80, hE0, hF0, if_false, hb, hc, hd, hr, Option.bind_eq_bind,
    Option.bind_some]
  cases decode? rest <;> rfl

end Reading

theorem toNat_octet {n : Nat} (h : n < 256) : (UInt8.ofNat n).toNat = n := by
  rw [UInt8.toNat_ofNat']
  exact Nat.mod_eq_of_lt h

theorem trailingBits?_trailing (n : Nat) : trailingBits? (trailing n) = some (n % 64) := by
  have hoctet : (trailing n).toNat = 0x80 + n % 64 := toNat_octet (by omega)
  have hbounds : 0x80 ≤ 0x80 + n % 64 ∧ 0x80 + n % 64 < 0xC0 := by omega
  simp [trailingBits?, hoctet, hbounds]

theorem charFrom?_toNat {least n : Nat} {c : Char} (hn : n = c.toNat) (h : least ≤ c.toNat) :
    charFrom? least n = some c := by
  have hvalid : c.toNat.isValidChar := c.valid
  subst hn
  simp [charFrom?, h, hvalid]

theorem toNat_lt (c : Char) : c.toNat < 0x110000 := by
  have hvalid : c.toNat.isValidChar := c.valid
  unfold Nat.isValidChar at hvalid
  omega

/-- A character is read from its octets. The cases are the numbers of octets. -/
theorem decode?_encodeChar (c : Char) (rest : List UInt8) :
    decode? (encodeChar c ++ rest) = (decode? rest).map (c :: ·) := by
  have hmost := toNat_lt c
  unfold encodeChar
  dsimp only
  split
  · have hlead : (UInt8.ofNat c.toNat).toNat = c.toNat := toNat_octet (by omega)
    refine (decode?_one rest (by omega)).trans ?_
    rw [hlead, Char.ofNat_toNat]
  split
  · have hlead : (UInt8.ofNat (0xC0 + c.toNat / 64)).toNat = 0xC0 + c.toNat / 64 :=
      toNat_octet (by omega)
    exact decode?_two rest (by omega) (by omega) (trailingBits?_trailing _)
      (charFrom?_toNat (by omega) (by omega))
  split
  · have hlead : (UInt8.ofNat (0xE0 + c.toNat / 4096)).toNat = 0xE0 + c.toNat / 4096 :=
      toNat_octet (by omega)
    exact decode?_three rest (by omega) (by omega) (trailingBits?_trailing _)
      (trailingBits?_trailing _) (charFrom?_toNat (by omega) (by omega))
  · have hlead : (UInt8.ofNat (0xF0 + c.toNat / 262144)).toNat = 0xF0 + c.toNat / 262144 :=
      toNat_octet (by omega)
    exact decode?_four rest (by omega) (trailingBits?_trailing _) (trailingBits?_trailing _)
      (trailingBits?_trailing _) (charFrom?_toNat (by omega) (by omega))

theorem decode?_encode (s : List Char) : decode? (encode s) = some s := by
  induction s with
  | nil => rfl
  | cons c s ih =>
    rw [encode, List.flatMap_cons, decode?_encodeChar, ← encode, ih]
    rfl

end ClientCompiler.Text
