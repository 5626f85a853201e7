/-!
Binary floating point numbers of 64 bits as exact rationals. Rounding a ratio picks the nearest
number, a tie the one with an even significand.
-/

namespace ClientCompiler

/-- A finite number is `± significand * 2 ^ exponent`, where the significand has 53 bits, or the
exponent is the least one, `-1074`. -/
inductive Double where
  | finite (negative : Bool) (significand : Nat) (exponent : Int)
  | infinite (negative : Bool)
  | nan
  deriving DecidableEq, Repr, Inhabited

namespace Double

def zero : Double := .finite false 0 (-1074)

def divHalfEven (n d : Nat) : Nat :=
  let q := n / d
  let r := n % d
  if 2 * r < d then q else if d < 2 * r then q + 1 else if q % 2 = 0 then q else q + 1

def unitsOf (n d : Nat) (e : Int) : Nat × Nat :=
  if e < 0 then (n * Nat.pow 2 (-e).toNat, d) else (n, d * Nat.pow 2 e.toNat)

def ofRatio (negative : Bool) (n d : Nat) : Double :=
  if n = 0 then .finite negative 0 (-1074)
  else
    let guess : Int := (n.log2 : Int) - d.log2 - 52
    let (a, b) := unitsOf n d guess
    let e := max (if a / b < Nat.pow 2 52 then guess - 1 else guess) (-1074)
    let (a, b) := unitsOf n d e
    let q := divHalfEven a b
    let (q, e) := if q = Nat.pow 2 53 then (Nat.pow 2 52, e + 1) else (q, e)
    if e > 971 then .infinite negative else .finite negative q e

/-- The number nearest to `± digits * 10 ^ exponent`. Exponents far outside the range are settled
by the number of digits alone. -/
def ofDecimal (negative : Bool) (digits : Nat) (exponent : Int) : Double :=
  if digits = 0 then .finite negative 0 (-1074)
  else
    let size : Int := (digits.log2 / 3 : Nat) + 1 + exponent
    let least : Int := (digits.log2 / 4 : Nat) + exponent
    if least > 400 then .infinite negative
    else if size < -400 then .finite negative 0 (-1074)
    else if exponent < 0 then ofRatio negative digits (Nat.pow 10 (-exponent).toNat)
    else ofRatio negative (digits * Nat.pow 10 exponent.toNat) 1

def ofInt (i : Int) : Double := ofRatio (i < 0) i.natAbs 1

def toRatio? : Double → Option (Int × Nat)
  | .finite neg m e =>
    let (n, d) := if e < 0 then (m, Nat.pow 2 (-e).toNat) else (m * Nat.pow 2 e.toNat, 1)
    some (if neg then -(n : Int) else n, d)
  | _ => none

def isZero : Double → Bool
  | .finite _ m _ => m = 0
  | _ => false

def isNegative : Double → Bool
  | .finite neg _ _ => neg
  | .infinite neg => neg
  | .nan => false

def neg : Double → Double
  | .finite s m e => .finite (!s) m e
  | .infinite s => .infinite (!s)
  | .nan => .nan

/-- Equality of numbers: zeros of both signs are equal, and nothing equals `nan`. -/
def same : Double → Double → Bool
  | .nan, _ => false
  | _, .nan => false
  | .finite s m e, .finite s' m' e' => (m == 0 && m' == 0) || (s == s' && m == m' && e == e')
  | .infinite s, .infinite s' => s == s'
  | _, _ => false

def equalsInt (x : Double) (i : Int) : Bool :=
  match x.toRatio? with
  | some (n, d) => n == i * d
  | none => false

/-- Whether two numbers are one key: by their value, where `nan` is one key with itself. -/
def coincides (x y : Double) : Bool :=
  match x.toRatio?, y.toRatio? with
  | some (n, d), some (m, e) => n * e == m * d
  | none, none => x == y
  | _, _ => false

end Double
end ClientCompiler
