import ClientCompiler.Number.Reading
import ClientCompiler.Template.Datum
import ClientCompiler.Text.CharacterName
import ClientCompiler.Text.Digit
import ClientCompiler.Text.Identifier

/-!
The tokens inside the tags of a template: names, numbers, strings and signs. Digits of all scripts
count as digits, except at the start of an integer.
-/

namespace ClientCompiler.Template

/-- A number may have the form of one and no value: it is `misread`. -/
inductive Token where
  | name (s : String)
  | str (s : List Char)
  | int (n : Nat)
  | float (x : Double)
  | misread (f : RenderFault)
  | op (s : String)
  deriving DecidableEq, Repr

/-! ## Numbers -/

def digitRun : List Char → List Char × List Char
  | '_' :: d :: r =>
    if Text.isDecimal d then (let (ds, rest) := digitRun r; (d :: ds, rest)) else ([], '_' :: d :: r)
  | d :: r =>
    if Text.isDecimal d then (let (ds, rest) := digitRun r; (d :: ds, rest)) else ([], d :: r)
  | [] => ([], [])

def digits? : List Char → Option (List Char × List Char)
  | d :: r =>
    if Text.isDecimal d then (let (ds, rest) := digitRun r; some (d :: ds, rest)) else none
  | [] => none

/-- A floating point number from the digits before the point, those behind it, and a power of ten.
It has a value only if its digits are those of ASCII. -/
def floatToken (whole fraction : List Char) (negative : Bool) (power : List Char) : Token :=
  if (whole ++ fraction ++ power).all Char.isDigit then
    .float (.ofDecimal false (ofDigits (whole ++ fraction))
      (withSign negative (ofDigits power) - fraction.length))
  else .misread .meaningless

def float? (cs : List Char) : Option (Token × List Char) := do
  let (whole, r) ← digits? cs
  let (fraction, afterFraction) := match r with
    | '.' :: s => (digits? s).getD ([], r)
    | _ => ([], r)
  let power := match afterFraction with
    | e :: s => if e = 'e' || e = 'E' then digits? (signed s).2 else none
    | [] => none
  match power with
  | some (ds, rest) =>
    return (floatToken whole fraction (signed (afterFraction.drop 1)).1 ds, rest)
  | none =>
    if fraction.isEmpty then none else return (floatToken whole fraction false [], afterFraction)

def zeroRun : List Char → List Char
  | '_' :: '0' :: r => zeroRun r
  | '0' :: r => zeroRun r
  | r => r

def digitsThat (fits : Char → Bool) : List Char → List Char × List Char
  | '_' :: d :: r =>
    if fits d then (let (ds, rest) := digitsThat fits r; (d :: ds, rest)) else ([], '_' :: d :: r)
  | d :: r => if fits d then (let (ds, rest) := digitsThat fits r; (d :: ds, rest)) else ([], d :: r)
  | [] => ([], [])

/-- A number with the mark of its base. Only in base 16 digits of all scripts count. -/
def marked? : List Char → Option (Token × List Char)
  | '0' :: m :: r => do
    let m := m.toLower
    let base ← if m = 'x' then some 16 else if m = 'o' then some 8 else if m = 'b' then some 2 else none
    let plain (c : Char) : Char := if base = 16 then Text.plainDigit c else c
    let (ds, rest) := digitsThat (fun c => (digitIn? base (plain c)).isSome) r
    return (.int (← natIn? base (ds.map plain)), rest)
  | _ => none

/-- A decimal number starts with a digit of ASCII, and not with a zero unless it is zero. -/
def int? (cs : List Char) : Option (Token × List Char) :=
  match marked? cs with
  | some found => some found
  | none =>
    match cs with
    | '0' :: r => some (.int 0, zeroRun r)
    | d :: r =>
      if d.isDigit then
        let (ds, rest) := digitRun r
        if ds.length ≥ maxDecimalDigits then some (.misread .badValue, rest)
        else some (.int (ofDigits ((d :: ds).map Text.plainDigit)), rest)
      else none
    | [] => none

/-! ## Strings -/

/-- A character in ASCII: other ones as escapes with their number. -/
def inAscii (c : Char) : List Char :=
  let n := c.toNat
  if n < 0x80 then [c]
  else if n < 0x100 then '\\' :: 'x' :: Value.hexText 2 n
  else if n < 0x10000 then '\\' :: 'u' :: Value.hexText 4 n
  else '\\' :: 'U' :: Value.hexText 8 n

/-- The character with a number; the numbers of surrogates stand for U+FFFD. -/
def charOf? (n : Nat) : Option Char :=
  if n.isValidChar then some (Char.ofNat n) else if n < 0xE000 then some '\uFFFD' else none

def numbered? (width : Nat) (cs : List Char) : Option (Char × List Char) := do
  let ds := cs.take width
  let c ← charOf? (← natIn? 16 ds)
  if ds.length = width then return (c, cs.drop width) else none

def named? : List Char → Option (Char × List Char)
  | '\x7b' :: r => do
    let name := r.takeWhile (· ≠ '\x7d')
    let c ← Text.characterNamed? name
    match r.drop name.length with
    | '\x7d' :: rest => return (c, rest)
    | _ => none
  | _ => none

/-- The value of a string in ASCII with escapes. An unknown escape stands for itself. -/
def unescape : Nat → List Char → Option (List Char)
  | 0, _ => none
  | fuel + 1, cs =>
    match cs with
    | [] => some []
    | '\\' :: e :: r =>
      let one (c : Char) (r : List Char) := (unescape fuel r).map (c :: ·)
      let found (x : Option (Char × List Char)) := do
        let (c, rest) ← x
        one c rest
      match e with
      | '\n' => unescape fuel r
      | '\\' => one '\\' r
      | '\'' => one '\'' r
      | '"' => one '"' r
      | 'a' => one '\x07' r
      | 'b' => one '\x08' r
      | 'f' => one '\x0c' r
      | 'n' => one '\n' r
      | 'r' => one '\r' r
      | 't' => one '\t' r
      | 'v' => one '\x0b' r
      | 'x' => found (numbered? 2 r)
      | 'u' => found (numbered? 4 r)
      | 'U' => found (numbered? 8 r)
      | 'N' => found (named? r)
      | e =>
        match digitIn? 8 e with
        | some _ =>
          let ds := ((e :: r).take 3).takeWhile fun d => (digitIn? 8 d).isSome
          one (Char.ofNat ((natIn? 8 ds).getD 0)) ((e :: r).drop ds.length)
        | none => (unescape fuel r).map fun s => '\\' :: e :: s
    | c :: r => (unescape fuel r).map (c :: ·)

/-- The value of what stands between quotes. Characters outside ASCII are escaped before the escapes
are read, so a backslash before one of them leaves the letters of its escape. -/
def stringValue? (raw : List Char) : Option (List Char) :=
  let ascii := raw.flatMap inAscii
  unescape (ascii.length + 1) ascii

def quotedRun (quote : Char) : List Char → Option (List Char × List Char)
  | [] => none
  | '\\' :: e :: r => (quotedRun quote r).map fun (s, rest) => ('\\' :: e :: s, rest)
  | c :: r => if c = quote then some ([], r) else (quotedRun quote r).map fun (s, rest) => (c :: s, rest)

def str? : List Char → Option (Token × List Char)
  | q :: r => do
    if q ≠ '\'' && q ≠ '"' then none
    let (raw, rest) ← quotedRun q r
    return (.str (← stringValue? raw), rest)
  | [] => none

/-! ## Names and signs -/

def doubleSigns : List String := ["//", "**", "==", "!=", ">=", "<="]

def singleSigns : List Char := "+-/*%~[]()\x7b\x7d><=.:|,;".toList

def op? : List Char → Option (Token × List Char)
  | [] => none
  | [c] => if singleSigns.contains c then some (.op (String.singleton c), []) else none
  | c :: d :: r =>
    if doubleSigns.contains (String.ofList [c, d]) then some (.op (String.ofList [c, d]), r)
    else if singleSigns.contains c then some (.op (String.singleton c), d :: r)
    else none

def word? (cs : List Char) : Option (Token × List Char) :=
  match cs.takeWhile Text.continuesIdentifier with
  | [] => none
  | c :: w =>
    if Text.startsIdentifier c then some (.name (String.ofList (c :: w)), cs.drop (w.length + 1))
    else none

/-- One token; no number with a point starts right after a point. -/
def token? (afterPoint : Bool) (cs : List Char) : Option (Token × List Char) :=
  (if afterPoint then none else float? cs) <|> int? cs <|> word? cs <|> str? cs <|> op? cs

def closer? : String → Option String
  | "(" => some ")"
  | "[" => some "]"
  | "\x7b" => some "\x7d"
  | _ => none

def balance? (stack : List String) : Token → Option (List String)
  | .op s =>
    match closer? s with
    | some c => some (c :: stack)
    | none =>
      if s = ")" || s = "]" || s = "\x7d" then
        match stack with
        | c :: rest => if c = s then some rest else none
        | [] => none
      else some stack
  | _ => some stack

/-- The tokens of a tag up to its end, what follows it, and whether that begins a line. A tag does
not end inside brackets. -/
def tagTokens (ends : List Char → Option (List Char × Bool)) :
    Nat → List String → Bool → List Char → Option (List Token × List Char × Bool)
  | 0, _, _, _ => none
  | fuel + 1, stack, afterPoint, cs =>
    match (if stack.isEmpty then ends cs else none) with
    | some (rest, lineStart) => some ([], rest, lineStart)
    | none =>
      match cs with
      | [] => none
      | c :: r =>
        if Text.isBlank c then tagTokens ends fuel stack false r
        else do
          let (t, rest) ← token? afterPoint cs
          let stack ← balance? stack t
          let (ts, rest, lineStart) ← tagTokens ends fuel stack (t = .op ".") rest
          return (t :: ts, rest, lineStart)

end ClientCompiler.Template
