import ClientCompiler.Number.Decimal
import ClientCompiler.Text.Blank
import ClientCompiler.Text.Digit

/-!
Numbers read from text, with blanks allowed around them and in the digits of any script, and the
arithmetic of floating point numbers, which rounds every exact result.
-/

namespace ClientCompiler

def digitIn? (base : Nat) (c : Char) : Option Nat :=
  let n := if '0' ≤ c && c ≤ '9' then c.toNat - 48
    else if 'a' ≤ c && c ≤ 'f' then c.toNat - 87
    else if 'A' ≤ c && c ≤ 'F' then c.toNat - 55
    else base
  if n < base then some n else none

def natIn? (base : Nat) (ds : List Char) : Option Nat :=
  if ds.isEmpty then none
  else ds.foldl (fun n c => do return (← n) * base + (← digitIn? base c)) (some 0)

def signed : List Char → Bool × List Char
  | '-' :: r => (true, r)
  | '+' :: r => (false, r)
  | r => (false, r)

def withSign (negative : Bool) (n : Nat) : Int := if negative then -(n : Int) else n

def dropBaseMark (base : Nat) (ds : List Char) : List Char :=
  match ds with
  | '0' :: m :: r =>
    let mark := if base = 2 then 'b' else if base = 8 then 'o' else if base = 16 then 'x' else '0'
    if base ≠ 10 && m.toLower = mark then r else ds
  | _ => ds

def maxDecimalDigits : Nat := 4300

def intIn? (base : Nat) (text : List Char) : Option Int := do
  let (negative, ds) := signed ((Text.trim text).map Text.plainDigit)
  let ds := dropBaseMark base ds
  if base = 10 && ds.length > maxDecimalDigits then none
  else return withSign negative (← natIn? base ds)

namespace Double

def exponentOf? : List Char → Option Int
  | [] => some 0
  | e :: r =>
    if e = 'e' || e = 'E' then
      let (negative, ds) := signed r
      (natIn? 10 ds).map (withSign negative)
    else none

def ofText? (text : List Char) : Option Double :=
  let (negative, body) := signed ((Text.trim text).map Text.plainDigit)
  let word := Text.lowerAscii body
  if word = "inf".toList || word = "infinity".toList then some (.infinite negative)
  else if word = "nan".toList then some .nan
  else
    let whole := body.takeWhile Char.isDigit
    let rest := body.dropWhile Char.isDigit
    let (fraction, rest) := match rest with
      | '.' :: r => (r.takeWhile Char.isDigit, r.dropWhile Char.isDigit)
      | r => ([], r)
    if whole.isEmpty && fraction.isEmpty then none
    else (exponentOf? rest).map fun e =>
      ofDecimal negative (ofDigits (whole ++ fraction)) (e - fraction.length)

def mul (x y : Double) : Double :=
  let negative := x.isNegative != y.isNegative
  match x.toRatio?, y.toRatio? with
  | some (n, d), some (m, e) => ofRatio negative (n.natAbs * m.natAbs) (d * e)
  | _, _ =>
    if x = .nan || y = .nan || x.isZero || y.isZero then .nan else .infinite negative

def add (x y : Double) : Double :=
  match x.toRatio?, y.toRatio? with
  | some (n, d), some (m, e) =>
    let sum := n * e + m * d
    ofRatio (if sum = 0 then x.isNegative && y.isNegative else sum < 0) sum.natAbs (d * e)
  | some _, none => y
  | none, some _ => x
  | none, none => if x = y then x else .nan

end Double
end ClientCompiler
