/-!
Digits of all scripts (Unicode 14). Each script has ten decimal digits in a row, from its zero on;
raised, lowered and encircled digits are digits that form no decimal numbers.
-/

namespace ClientCompiler.Text

/-- The zeros above U+007F. -/
def zeros : List Nat := [
  1632, 1776, 1984, 2406, 2534, 2662, 2790, 2918, 3046, 3174, 3302, 3430, 3558, 3664, 3792, 3872,
  4160, 4240, 6112, 6160, 6470, 6608, 6784, 6800, 6992, 7088, 7232, 7248, 42528, 43216, 43264,
  43472, 43504, 43600, 44016, 65296, 66720, 68912, 69734, 69872, 69942, 70096, 70384, 70736, 70864,
  71248, 71360, 71472, 71904, 72016, 72784, 73040, 73120, 92768, 92864, 93008, 120782, 120792,
  120802, 120812, 120822, 123200, 123632, 125264, 130032]

/-- The runs of digits that are not decimal. -/
def otherDigitRuns : List (Nat × Nat) := [
  (178, 179), (185, 185), (4969, 4977), (6618, 6618), (8304, 8304), (8308, 8313), (8320, 8329),
  (9312, 9320), (9332, 9340), (9352, 9360), (9450, 9450), (9461, 9469), (9471, 9471),
  (10102, 10110), (10112, 10120), (10122, 10130), (68160, 68163), (69216, 69224), (69714, 69722),
  (127232, 127242)]

def decimal? (c : Char) : Option Nat :=
  let n := c.toNat
  if '0' ≤ c && c ≤ '9' then some (n - 48)
  else if n < 0x80 then none
  else (zeros.find? fun z => z ≤ n && n < z + 10).map (n - ·)

def isDecimal (c : Char) : Bool := (decimal? c).isSome

/-- Decimal digits, and the digits that form no numbers. -/
def isDigit (c : Char) : Bool :=
  isDecimal c || otherDigitRuns.any fun (a, b) => a ≤ c.toNat && c.toNat ≤ b

def plainDigit (c : Char) : Char :=
  match decimal? c with
  | some n => Char.ofNat (48 + n)
  | none => c

end ClientCompiler.Text
