import ClientCompiler.Value
import ClientCompiler.Yaml.Implicit

/-!
The values that scalars stand for.
-/

namespace ClientCompiler.Yaml

def boolValue (text : List Char) : Except Failure Value :=
  let word := String.ofList (Text.lowerAscii text)
  if ["yes", "true", "on"].contains word then .ok (.bool true)
  else if ["no", "false", "off"].contains word then .ok (.bool false)
  else .error .unknownWord

def valid {α : Type} (x : Option α) (f : α → Value) : Except Failure Value :=
  match x with
  | some a => .ok (f a)
  | none => .error .badValue

def sexagesimal (ns : List Int) : Int := ns.foldl (fun sum n => sum * 60 + n) 0

/-- An integer in base 2, 8, 10, 16 or 60; bars in it do not count. -/
def intValue (text : List Char) : Except Failure Value :=
  let text := text.filter (· ≠ '_')
  if text.isEmpty then .error .emptyText
  else
    let (negative, body) := signed text
    let value (n : Option Int) : Except Failure Value :=
      valid n fun n => .int (if negative then -n else n)
    match body with
    | [] => .error .emptyText
    | ['0'] => .ok (.int 0)
    | '0' :: 'b' :: ds => value (intIn? 2 ds)
    | '0' :: 'x' :: ds => value (intIn? 16 ds)
    | '0' :: _ => value (intIn? 8 body)
    | _ =>
      if body.contains ':' then value (((Text.splitOn ':' body).mapM (intIn? 10)).map sexagesimal)
      else value (intIn? 10 body)

/-- The sum of numbers with weights sixty, added from the last one on. A weight may be too large for a
floating point number. -/
def sexagesimalFloat (xs : List Double) : Except Failure Double :=
  xs.reverse.zipIdx.foldlM (fun sum x =>
    match Double.ofInt (Nat.pow 60 x.2) with
    | .infinite _ => .error .overflow
    | weight => .ok (sum.add (x.1.mul weight))) Double.zero

def isWordForNoNumber (text : List Char) : Bool :=
  (signed (Text.lowerAscii (text.filter (· ≠ '_')))).2 = ".nan".toList

def floatValue (text : List Char) : Except Failure Value :=
  let text := Text.lowerAscii (text.filter (· ≠ '_'))
  if text.isEmpty then .error .emptyText
  else
    let (negative, body) := signed text
    let value (x : Double) : Value := .float (if negative then x.neg else x)
    if body = ".inf".toList then .ok (value (.infinite false))
    else if body = ".nan".toList then .ok (value .nan)
    else if body.contains ':' then
      match (Text.splitOn ':' body).mapM Double.ofText? with
      | some xs => (sexagesimalFloat xs).map value
      | none => .error .badValue
    else valid (Double.ofText? body) value

def sixBits? (c : Char) : Option Nat :=
  if 'A' ≤ c && c ≤ 'Z' then some (c.toNat - 65)
  else if 'a' ≤ c && c ≤ 'z' then some (c.toNat - 71)
  else if '0' ≤ c && c ≤ '9' then some (c.toNat + 4)
  else if c = '+' then some 62
  else if c = '/' then some 63
  else none

/-- Octets from base 64. Other characters are passed over. `place` is the place in a group of four,
`left` holds the bits that are left of the last character, and `pads` counts the equals signs. -/
def octets? : List Char → Nat → Nat → Nat → Option (List UInt8)
  | [], place, _, _ => if place = 0 then some [] else none
  | '=' :: cs, place, left, pads =>
    if place ≥ 2 then
      if place + pads + 1 ≥ 4 then some [] else octets? cs place left (pads + 1)
    else octets? cs place left pads
  | c :: cs, place, left, pads =>
    match sixBits? c with
    | none => octets? cs place left pads
    | some n =>
      match place with
      | 0 => octets? cs 1 n 0
      | 1 => (octets? cs 2 (n % 16) 0).map (UInt8.ofNat (left * 4 + n / 16) :: ·)
      | 2 => (octets? cs 3 (n % 4) 0).map (UInt8.ofNat (left * 16 + n / 4) :: ·)
      | _ => (octets? cs 0 0 0).map (UInt8.ofNat (left * 64 + n) :: ·)

def binaryValue (text : List Char) : Except Failure Value :=
  if text.any (·.toNat > 0x7F) then .error .malformed
  else match octets? text 0 0 0 with
    | some b => .ok (.bytes b)
    | none => .error .malformed

def microseconds (fraction : List Char) : Nat :=
  let ds := fraction.take 6
  ofDigits (ds ++ List.replicate (6 - ds.length) '0')

def zoneMinutes (zone : Bool × List Char × List Char) : Int :=
  withSign zone.1 (ofDigits zone.2.1 * 60 + ofDigits zone.2.2)

def timestampValue (text : List Char) : Except Failure Value :=
  match stamp? (dropFinalNewline text) with
  | none => .error .noMatch
  | some t =>
    let d : Date := ⟨ofDigits t.year, ofDigits t.month, ofDigits t.day⟩
    match t.time with
    | none => if d.isValid then .ok (.date d) else .error .badValue
    | some (hour, minute, second) =>
      let m : Moment := ⟨d, ofDigits hour, ofDigits minute, ofDigits second,
        microseconds t.fraction, t.zone.map zoneMinutes⟩
      if m.isValid then .ok (.moment m) else .error .badValue

end ClientCompiler.Yaml
