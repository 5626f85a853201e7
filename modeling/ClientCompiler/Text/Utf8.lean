/-!
Text as octets in UTF-8. Reading refuses overlong forms, halves of surrogate pairs, numbers past
the last character and sequences cut short, or puts a mark in their place.
-/

namespace ClientCompiler.Text

def trailing (n : Nat) : UInt8 := UInt8.ofNat (0x80 + n % 64)

def encodeChar (c : Char) : List UInt8 :=
  let n := c.toNat
  if n < 0x80 then [UInt8.ofNat n]
  else if n < 0x800 then [UInt8.ofNat (0xC0 + n / 64), trailing n]
  else if n < 0x10000 then [UInt8.ofNat (0xE0 + n / 4096), trailing (n / 64), trailing n]
  else [UInt8.ofNat (0xF0 + n / 262144), trailing (n / 4096), trailing (n / 64), trailing n]

def encode (s : List Char) : List UInt8 := s.flatMap encodeChar

def trailingBits? (b : UInt8) : Option Nat :=
  if 0x80 ≤ b.toNat && b.toNat < 0xC0 then some (b.toNat - 0x80) else none

def charFrom? (least n : Nat) : Option Char :=
  if least ≤ n && n.isValidChar then some (Char.ofNat n) else none

def decode? : List UInt8 → Option (List Char)
  | [] => some []
  | a :: rest =>
    let lead := a.toNat
    if lead < 0x80 then (decode? rest).map (Char.ofNat lead :: ·)
    else match rest with
      | [] => none
      | b :: rest => do
        let x ← trailingBits? b
        if lead < 0xE0 then
          if lead < 0xC0 then none
          else return (← charFrom? 0x80 ((lead - 0xC0) * 64 + x)) :: (← decode? rest)
        else match rest with
          | [] => none
          | c :: rest => do
            let y ← trailingBits? c
            if lead < 0xF0 then
              return (← charFrom? 0x800 (((lead - 0xE0) * 64 + x) * 64 + y)) :: (← decode? rest)
            else match rest with
              | [] => none
              | d :: rest => do
                let z ← trailingBits? d
                let c ← charFrom? 0x10000 ((((lead - 0xF0) * 64 + x) * 64 + y) * 64 + z)
                return c :: (← decode? rest)

/-! ## Reading with marks in the place of what is ill-formed -/

def replacement : Char := Char.ofNat 0xFFFD

/-- A sequence that has begun: its value so far, how many octets are missing, and the bounds of the
next one. -/
structure Sequence where
  value : Nat
  missing : Nat
  least : Nat
  most : Nat
  deriving DecidableEq, Repr

/-- What an octet starts: a character at once, or a sequence. The bounds of the second octet keep
overlong forms, halves of surrogate pairs and numbers past the last character out. -/
def begun (a : UInt8) : Char ⊕ Sequence :=
  let n := a.toNat
  if n < 0x80 then .inl (Char.ofNat n)
  else if n < 0xC2 then .inl replacement
  else if n < 0xE0 then .inr ⟨n - 0xC0, 1, 0x80, 0xBF⟩
  else if n < 0xF0 then
    .inr ⟨n - 0xE0, 2, if n = 0xE0 then 0xA0 else 0x80, if n = 0xED then 0x9F else 0xBF⟩
  else if n < 0xF5 then
    .inr ⟨n - 0xF0, 3, if n = 0xF0 then 0x90 else 0x80, if n = 0xF4 then 0x8F else 0xBF⟩
  else .inl replacement

/-- Reads on, where one mark stands for all octets of a sequence that is cut short. -/
def readFrom : Option Sequence → List UInt8 → List Char
  | none, [] => []
  | some _, [] => [replacement]
  | open?, a :: rest =>
    let start (_ : Unit) : List Char := match begun a with
      | .inl c => c :: readFrom none rest
      | .inr q => readFrom (some q) rest
    match open? with
    | none => start ()
    | some q =>
      if q.least ≤ a.toNat && a.toNat ≤ q.most then
        let value := q.value * 64 + (a.toNat - 0x80)
        if q.missing = 1 then Char.ofNat value :: readFrom none rest
        else readFrom (some ⟨value, q.missing - 1, 0x80, 0xBF⟩) rest
      else replacement :: start ()

def decodeAny (octets : List UInt8) : List Char := readFrom none octets

end ClientCompiler.Text
