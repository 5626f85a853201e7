import ClientCompiler.Value

/-!
Reading JSON. Beside the standard's values it reads `NaN`, `Infinity` and `-Infinity`; of a
repeated key the last value counts, in the place of the first. A reader takes the characters that
are left and gives back the ones after what it read. Values may stand in one another to any depth.
-/

namespace ClientCompiler.Json

inductive Cause where
  | value
  | propertyName
  | colon
  | comma
  | unterminated
  | control
  | escape
  | unicodeEscape
  | extra
  | byteOrderMark
  deriving DecidableEq, Repr

def Cause.message : Cause → String
  | .value => "Expecting value"
  | .propertyName => "Expecting property name enclosed in double quotes"
  | .colon => "Expecting ':' delimiter"
  | .comma => "Expecting ',' delimiter"
  | .unterminated => "Unterminated string starting at"
  | .control => "Invalid control character at"
  | .escape => "Invalid \\escape"
  | .unicodeEscape => "Invalid \\uXXXX escape"
  | .extra => "Extra data"
  | .byteOrderMark => "Unexpected UTF-8 BOM (decode using utf-8-sig)"

/-- Why a text was not read. A malformed place is given by the number of characters left there. -/
inductive Failure where
  | malformed (cause : Cause) (left : Nat)
  | integerTooLong
  deriving DecidableEq, Repr

abbrev Reading (α : Type) := Except Failure (α × List Char)

def refuse {α : Type} (cause : Cause) (rest : List Char) : Reading α :=
  .error (.malformed cause rest.length)

def isSpace (c : Char) : Bool := c = ' ' || c = '\t' || c = '\n' || c = '\r'

def skipSpace (cs : List Char) : List Char := cs.dropWhile isSpace

def isDigit (c : Char) : Bool := '0' ≤ c && c ≤ '9'

def hexValue? (c : Char) : Option Nat :=
  if isDigit c then some (c.toNat - 48)
  else if 'a' ≤ c && c ≤ 'f' then some (c.toNat - 87)
  else if 'A' ≤ c && c ≤ 'F' then some (c.toNat - 55)
  else none

def hexQuad? (a b c d : Char) : Option Nat := do
  let a ← hexValue? a
  let b ← hexValue? b
  let c ← hexValue? c
  let d ← hexValue? d
  return ((a * 16 + b) * 16 + c) * 16 + d

def joinSurrogates : List Nat → List Char
  | hi :: lo :: cs =>
    if 0xD800 ≤ hi && hi < 0xDC00 && 0xDC00 ≤ lo && lo < 0xE000 then
      Char.ofNat (0x10000 + (hi - 0xD800) * 0x400 + (lo - 0xDC00)) :: joinSurrogates cs
    else if 0xD800 ≤ hi && hi < 0xE000 then Char.ofNat 0xFFFD :: joinSurrogates (lo :: cs)
    else Char.ofNat hi :: joinSurrogates (lo :: cs)
  | [c] => [if 0xD800 ≤ c && c < 0xE000 then Char.ofNat 0xFFFD else Char.ofNat c]
  | [] => []

theorem joinSurrogates_char (c : Char) (ns : List Nat) :
    joinSurrogates (c.toNat :: ns) = c :: joinSurrogates ns := by
  have hplain : ¬(0xD800 ≤ c.toNat ∧ c.toNat < 0xE000) := by
    have hvalid : c.toNat.isValidChar := c.valid
    unfold Nat.isValidChar at hvalid
    omega
  cases ns with
  | nil => simp [joinSurrogates, hplain]
  | cons n ns =>
    have hpair : ¬(((0xD800 ≤ c.toNat ∧ c.toNat < 0xDC00) ∧ 0xDC00 ≤ n) ∧ n < 0xE000) := by omega
    simp only [joinSurrogates, Bool.and_eq_true, decide_eq_true_eq, hpair, hplain, if_false,
      Char.ofNat_toNat]

def simpleEscape? : Char → Option Nat
  | '"' => some 34
  | '\\' => some 92
  | '/' => some 47
  | 'b' => some 8
  | 'f' => some 12
  | 'n' => some 10
  | 'r' => some 13
  | 't' => some 9
  | _ => none

def consPoint (n : Nat) (r : Reading (List Nat)) : Reading (List Nat) :=
  r.map fun (ns, rest) => (n :: ns, rest)

/-- The code points up to the closing quote. `opened` is the number of characters left at the
opening quote. Four digits of an escape have to be followed by something. -/
def stringPoints (opened : Nat) : List Char → Reading (List Nat)
  | [] => .error (.malformed .unterminated opened)
  | '"' :: cs => .ok ([], cs)
  | ['\\'] => .error (.malformed .unterminated opened)
  | '\\' :: 'u' :: a :: b :: c :: d :: e :: cs =>
    match hexQuad? a b c d with
    | some n => consPoint n (stringPoints opened (e :: cs))
    | none => refuse .unicodeEscape ('u' :: a :: b :: c :: d :: e :: cs)
  | '\\' :: 'u' :: cs => refuse .unicodeEscape ('u' :: cs)
  | '\\' :: c :: cs =>
    match simpleEscape? c with
    | some n => consPoint n (stringPoints opened cs)
    | none => refuse .escape ('\\' :: c :: cs)
  | c :: cs =>
    if c.toNat < 0x20 then refuse .control (c :: cs)
    else consPoint c.toNat (stringPoints opened cs)

def stringBody (cs : List Char) : Reading String :=
  (stringPoints (cs.length + 1) cs).map fun (ns, rest) => (String.ofList (joinSurrogates ns), rest)

def digitRun (cs : List Char) : List Char × List Char := (cs.takeWhile isDigit, cs.dropWhile isDigit)

def fraction? : List Char → Option (List Char × List Char)
  | '.' :: c :: cs => if isDigit c then some (digitRun (c :: cs)) else none
  | _ => none

def exponent? : List Char → Option (Int × List Char)
  | e :: cs =>
    if e = 'e' || e = 'E' then
      let (negative, ds) := match cs with
        | '-' :: r => (true, r)
        | '+' :: r => (false, r)
        | r => (false, r)
      match digitRun ds with
      | ([], _) => none
      | (run, rest) =>
        let n : Int := ofDigits run
        some (if negative then -n else n, rest)
    else none
  | [] => none

def maxIntegerDigits : Nat := 4300

def numberTail (negative : Bool) (whole rest : List Char) : Reading Value :=
  let (decimals, rest', isWhole) := match fraction? rest with
    | some (ds, r) => (ds, r, false)
    | none => ([], rest, true)
  match exponent? rest' with
  | some (e, r) =>
    .ok (.float (Double.ofDecimal negative (ofDigits (whole ++ decimals)) (e - decimals.length)), r)
  | none =>
    if isWhole then
      if whole.length > maxIntegerDigits then .error .integerTooLong
      else
        let n : Int := ofDigits whole
        .ok (.int (if negative then -n else n), rest')
    else .ok (.float (Double.ofDecimal negative (ofDigits (whole ++ decimals)) (-decimals.length)), rest')

def number (cs : List Char) : Reading Value :=
  let (negative, body) := match cs with
    | '-' :: r => (true, r)
    | r => (false, r)
  match body with
  | '0' :: r => numberTail negative ['0'] r
  | c :: r =>
    if isDigit c then
      let (ds, rest) := digitRun (c :: r)
      numberTail negative ds rest
    else refuse .value cs
  | [] => refuse .value cs

mutual

/-- One value. The fuel bounds the number of values and members still to be read. -/
def value : Nat → List Char → Reading Value
  | 0, cs => refuse .value cs
  | fuel + 1, cs =>
    match cs with
    | '"' :: r => (stringBody r).map fun (s, rest) => (.str s, rest)
    | '\x7b' :: r =>
      match skipSpace r with
      | '\x7d' :: r => .ok (.map [], r)
      | r => (members fuel r).map fun (kvs, rest) => (.map (Value.ofPairs kvs), rest)
    | '[' :: r =>
      match skipSpace r with
      | ']' :: r => .ok (.list [], r)
      | r => (elements fuel r).map fun (xs, rest) => (.list xs, rest)
    | 'n' :: 'u' :: 'l' :: 'l' :: r => .ok (.null, r)
    | 't' :: 'r' :: 'u' :: 'e' :: r => .ok (.bool true, r)
    | 'f' :: 'a' :: 'l' :: 's' :: 'e' :: r => .ok (.bool false, r)
    | 'N' :: 'a' :: 'N' :: r => .ok (.float .nan, r)
    | 'I' :: 'n' :: 'f' :: 'i' :: 'n' :: 'i' :: 't' :: 'y' :: r => .ok (.float (.infinite false), r)
    | '-' :: 'I' :: 'n' :: 'f' :: 'i' :: 'n' :: 'i' :: 't' :: 'y' :: r =>
      .ok (.float (.infinite true), r)
    | cs => number cs

def members : Nat → List Char → Except Failure (Value.Entries × List Char)
  | 0, cs => refuse .propertyName cs
  | fuel + 1, cs =>
    match cs with
    | '"' :: r => do
      let (key, r) ← stringBody r
      match skipSpace r with
      | ':' :: r =>
        let (v, r) ← value fuel (skipSpace r)
        match skipSpace r with
        | '\x7d' :: r => return ([(.str key, v)], r)
        | ',' :: r =>
          let (kvs, r) ← members fuel (skipSpace r)
          return ((.str key, v) :: kvs, r)
        | r => refuse .comma r
      | r => refuse .colon r
    | r => refuse .propertyName r

def elements : Nat → List Char → Except Failure (List Value × List Char)
  | 0, cs => refuse .value cs
  | fuel + 1, cs => do
    let (v, r) ← value fuel cs
    match skipSpace r with
    | ']' :: r => return ([v], r)
    | ',' :: r =>
      let (xs, r) ← elements fuel (skipSpace r)
      return (v :: xs, r)
    | r => refuse .comma r

end

def parse (cs : List Char) : Except Failure Value :=
  if cs.head? = some '\uFEFF' then .error (.malformed .byteOrderMark cs.length)
  else match value (cs.length + 1) (skipSpace cs) with
    | .error e => .error e
    | .ok (v, rest) =>
      match skipSpace rest with
      | [] => .ok v
      | r => .error (.malformed .extra r.length)

def malformedMessage (text : List Char) (cause : Cause) (left : Nat) : String :=
  let offset := text.length - left
  let before := text.take offset
  let line := before.count '\n' + 1
  let column := (before.reverse.takeWhile (· ≠ '\n')).length + 1
  s!"{cause.message}: line {line} column {column} (char {offset})"

end ClientCompiler.Json
