import ClientCompiler.Number.Double

/-!
Decimal text of numbers. A floating point number is written with the fewest digits that read back,
and of those with the ones nearest to it.
-/

namespace ClientCompiler

def natDigits (n : Nat) : List Char := Nat.toDigits 10 n

def intText (i : Int) : List Char :=
  if i < 0 then '-' :: natDigits i.natAbs else natDigits i.natAbs

def digitValue (c : Char) : Nat := c.toNat - '0'.toNat

def ofDigits (ds : List Char) : Nat := ds.foldl (fun n c => n * 10 + digitValue c) 0

namespace Double

/-- `digits * 10 ^ exponent`, where `digits` is not a multiple of ten unless it is zero. -/
structure Decimal where
  digits : Nat
  exponent : Int
  deriving DecidableEq, Repr

/-- The power of ten just above `n / d`: the least `k` with `n / d < 10 ^ k`, searched upwards. -/
def decimalSize (n d : Nat) (k : Int) : Nat → Int
  | 0 => k
  | fuel + 1 =>
    let (a, b) := if k < 0 then (n * Nat.pow 10 (-k).toNat, d) else (n, d * Nat.pow 10 k.toNat)
    if a < b then k else decimalSize n d (k + 1) fuel

/-- The multiple of `10 ^ e` next below `n / d`, and whether `n / d` is nearer to the one above. -/
def gridBelow (n d : Nat) (e : Int) : Nat × Ordering :=
  let (a, b) := if e < 0 then (n * Nat.pow 10 (-e).toNat, d) else (n, d * Nat.pow 10 e.toNat)
  (a / b, compare (2 * (a % b)) b)

/-- The best decimal with `places` digits that reads back as `x`, where `x` is `n / d` and lies
just below `10 ^ size`. -/
def readsBackWith? (x : Double) (n d : Nat) (size : Int) (places : Nat) : Option Decimal :=
  let e := size - places
  let (low, side) := gridBelow n d e
  let fits (k : Nat) : Bool := ofDecimal false k e == x
  let order := match side with
    | .lt => [low, low + 1]
    | .gt => [low + 1, low]
    | .eq => if low % 2 = 0 then [low, low + 1] else [low + 1, low]
  (order.find? fits).map (Decimal.mk · e)

def Decimal.strip (t : Decimal) : Nat → Decimal
  | 0 => t
  | fuel + 1 =>
    if t.digits ≠ 0 ∧ t.digits % 10 = 0 then Decimal.strip ⟨t.digits / 10, t.exponent + 1⟩ fuel
    else t

def shortest (significand : Nat) (e : Int) : Decimal :=
  let x := Double.finite false significand e
  let (n, d) :=
    if e < 0 then (significand, Nat.pow 2 (-e).toNat)
    else (significand * Nat.pow 2 e.toNat, 1)
  let guess : Int := ((significand.log2 : Int) + e) * 30103 / 100000 - 1
  let size := decimalSize n d guess 5
  let found := (List.range 17).findSome? fun i => readsBackWith? x n d size (i + 1)
  (found.getD ⟨(gridBelow n d (size - 17)).1, size - 17⟩).strip 20

/-- Positional below `10 ^ 16` and from `10 ^ -4` on, with `.0` after a whole number; otherwise
one digit before the point and a signed exponent of two digits or more. -/
def Decimal.text (t : Decimal) : List Char :=
  let ds := natDigits t.digits
  let point : Int := ds.length + t.exponent
  if -4 < point ∧ point ≤ 16 then
    if point ≤ 0 then '0' :: '.' :: (List.replicate (-point).toNat '0' ++ ds)
    else
      let whole := ds.take point.toNat
      let zeros := List.replicate (point.toNat - ds.length) '0'
      let rest := ds.drop point.toNat
      whole ++ zeros ++ '.' :: (if rest.isEmpty then ['0'] else rest)
  else
    let e := point - 1
    let shown := natDigits e.natAbs
    let shown := if shown.length < 2 then '0' :: shown else shown
    ds.take 1 ++ (if ds.length > 1 then '.' :: ds.drop 1 else []) ++
      'e' :: (if e < 0 then '-' else '+') :: shown

def text : Double → List Char
  | .nan => ['n', 'a', 'n']
  | .infinite neg => if neg then ['-', 'i', 'n', 'f'] else ['i', 'n', 'f']
  | .finite neg m e =>
    let body := if m = 0 then ['0', '.', '0'] else (shortest m e).text
    if neg then '-' :: body else body

end Double
end ClientCompiler
