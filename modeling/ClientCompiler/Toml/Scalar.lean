import ClientCompiler.Number.Reading
import ClientCompiler.Value

/-!
Scalars of TOML: strings of four kinds, dates, times, numbers. A reader takes the characters that
are left and gives back the ones after what it read.
-/

namespace ClientCompiler.Toml

/-- Why a text is not read. A number that is too long is not a fault of the form. -/
inductive Failure where
  | malformed
  | integerTooLong
  deriving DecidableEq, Repr

def malformed {α : Type} : Except Failure α := .error .malformed

def isBlank (c : Char) : Bool := c = ' ' || c = '\t'

def skipBlank (cs : List Char) : List Char := cs.dropWhile isBlank

def isControl (c : Char) : Bool := c.toNat < 32 || c.toNat = 127

def isBarred (c : Char) : Bool := isControl c && c ≠ '\t'

def after? (p : String) (cs : List Char) : Option (List Char) := Text.dropPrefix? p.toList cs

/-! ## Strings -/

def numberedChar (width : Nat) (cs : List Char) : Except Failure (Char × List Char) :=
  let ds := cs.take width
  match natIn? 16 ds with
  | some n =>
    if ds.length = width && n.isValidChar then .ok (Char.ofNat n, cs.drop width) else malformed
  | none => malformed

def simpleEscape? : Char → Option Char
  | 'b' => some '\x08'
  | 't' => some '\t'
  | 'n' => some '\n'
  | 'f' => some '\x0c'
  | 'r' => some '\r'
  | '"' => some '"'
  | '\\' => some '\\'
  | _ => none

/-- What an escape stands for, from the character after its backslash on. In a text of several
lines a backslash at the end of a line takes away the white space that follows. -/
def escape (multiline : Bool) : List Char → Except Failure (List Char × List Char)
  | [] => malformed
  | c :: cs =>
    if multiline && (isBlank c || c = '\n') then
      let skipWhite (r : List Char) := r.dropWhile fun d => isBlank d || d = '\n'
      match (c :: cs).dropWhile isBlank with
      | [] => .ok ([], [])
      | '\n' :: r => .ok ([], skipWhite r)
      | _ => malformed
    else if c = 'u' then (numberedChar 4 cs).map fun (d, r) => ([d], r)
    else if c = 'U' then (numberedChar 8 cs).map fun (d, r) => ([d], r)
    else match simpleEscape? c with
      | some d => .ok ([d], cs)
      | none => malformed

def basicString (multiline : Bool) : Nat → List Char → Except Failure (List Char × List Char)
  | 0, _ => malformed
  | fuel + 1, cs =>
    let keep (c : Char) (r : List Char) : Except Failure (List Char × List Char) :=
      (basicString multiline fuel r).map fun (s, rest) => (c :: s, rest)
    match cs with
    | [] => malformed
    | '"' :: r =>
      if !multiline then .ok ([], r)
      else match r with
        | '"' :: '"' :: rest => .ok ([], rest)
        | _ => keep '"' r
    | '\\' :: r => do
      let (piece, r) ← escape multiline r
      let (s, rest) ← basicString multiline fuel r
      return (piece ++ s, rest)
    | c :: r => if isBarred c && !(multiline && c = '\n') then malformed else keep c r

def literalString (multiline : Bool) : List Char → Except Failure (List Char × List Char)
  | [] => malformed
  | c :: r =>
    let keep : Except Failure (List Char × List Char) :=
      if isBarred c && !(multiline && c = '\n') then malformed
      else (literalString multiline r).map fun (s, rest) => (c :: s, rest)
    if c ≠ '\'' then keep
    else if !multiline then .ok ([], r)
    else match r with
      | '\'' :: '\'' :: rest => .ok ([], rest)
      | _ => keep

/-- Up to two more quotes at the end of a text of several lines belong to it. -/
def closingQuotes (quote : Char) (s rest : List Char) : List Char × List Char :=
  match rest with
  | a :: b :: r =>
    if a = quote then if b = quote then (s ++ [a, b], r) else (s ++ [a], b :: r) else (s, rest)
  | [a] => if a = quote then (s ++ [a], []) else (s, rest)
  | [] => (s, rest)

/-- A line end right after the opening quotes does not count. -/
def dropFirstNewline : List Char → List Char
  | '\n' :: r => r
  | r => r

def lineString : List Char → Except Failure (List Char × List Char)
  | '"' :: r => basicString false (r.length + 1) r
  | '\'' :: r => literalString false r
  | _ => malformed

def string (cs : List Char) : Except Failure (List Char × List Char) :=
  match after? "\"\"\"" cs, after? "'''" cs with
  | some r, _ =>
    (basicString true (r.length + 1) (dropFirstNewline r)).map fun (s, rest) => closingQuotes '"' s rest
  | none, some r =>
    (literalString true (dropFirstNewline r)).map fun (s, rest) => closingQuotes '\'' s rest
  | none, none => lineString cs

/-! ## Dates and times -/

def twoDigits? (least below : Nat) : List Char → Option (Nat × List Char)
  | a :: b :: r =>
    let n := ofDigits [a, b]
    if a.isDigit && b.isDigit && least ≤ n && n < below then some (n, r) else none
  | _ => none

def date? : List Char → Option (Date × List Char)
  | a :: b :: c :: d :: '-' :: r => do
    if !([a, b, c, d].all Char.isDigit) then none
    let (month, r) ← twoDigits? 1 13 r
    let (day, r) ← twoDigits? 1 32 (← after? "-" r)
    return (⟨ofDigits [a, b, c, d], month, day⟩, r)
  | _ => none

def fraction? : List Char → Option (List Char × List Char)
  | '.' :: c :: r =>
    if c.isDigit then some (c :: r.takeWhile Char.isDigit, r.dropWhile Char.isDigit) else none
  | _ => none

def time? (cs : List Char) : Option ((Nat × Nat × Nat × Nat) × List Char) := do
  let (hour, r) ← twoDigits? 0 24 cs
  let (minute, r) ← twoDigits? 0 60 (← after? ":" r)
  let (second, r) ← twoDigits? 0 60 (← after? ":" r)
  match fraction? r with
  | some (ds, r) =>
    let six := (ds ++ List.replicate 6 '0').take 6
    return ((hour, minute, second, ofDigits six), r)
  | none => return ((hour, minute, second, 0), r)

def offset? (cs : List Char) : Option (Int × List Char) :=
  match cs with
  | 'Z' :: r => some (0, r)
  | 'z' :: r => some (0, r)
  | s :: r => do
    if s ≠ '+' && s ≠ '-' then none
    let (hour, r) ← twoDigits? 0 24 r
    let (minute, r) ← twoDigits? 0 60 (← after? ":" r)
    return (withSign (s = '-') (hour * 60 + minute), r)
  | [] => none

/-- A date with or without a time. A time alone is a time on the first day of the calendar. -/
def calendar? (cs : List Char) : Option (Except Failure (Value × List Char)) :=
  match date? cs with
  | some (d, r) =>
    let dateOnly := if d.isValid then .ok (.date d, r) else malformed
    match r with
    | sep :: s =>
      if sep ≠ 'T' && sep ≠ 't' && sep ≠ ' ' then some dateOnly
      else match time? s with
        | none => some dateOnly
        | some ((h, m, sec, us), s) =>
          let (zone, s) := match offset? s with
            | some (minutes, s) => (some minutes, s)
            | none => (none, s)
          let t : Moment := ⟨d, h, m, sec, us, zone⟩
          some (if t.isValid then .ok (.moment t, s) else malformed)
    | [] => some dateOnly
  | none => (time? cs).map fun ((h, m, s, us), r) => .ok (.moment ⟨⟨1, 1, 1⟩, h, m, s, us, none⟩, r)

/-! ## Numbers -/

def digitRun (p : Char → Bool) : List Char → List Char × List Char
  | '_' :: d :: r => if p d then (let (ds, rest) := digitRun p r; (d :: ds, rest)) else ([], '_' :: d :: r)
  | d :: r => if p d then (let (ds, rest) := digitRun p r; (d :: ds, rest)) else ([], d :: r)
  | [] => ([], [])

def digitsOf? (p : Char → Bool) : List Char → Option (List Char × List Char)
  | d :: r => if p d then (let (ds, rest) := digitRun p r; some (d :: ds, rest)) else none
  | [] => none

def isIn (base : Nat) (c : Char) : Bool := (digitIn? base c).isSome

def marked? : List Char → Option (Int × List Char)
  | '0' :: m :: r => do
    let base ← if m = 'x' then some 16 else if m = 'o' then some 8 else if m = 'b' then some 2 else none
    let (ds, rest) ← digitsOf? (isIn base) r
    return ((← natIn? base ds), rest)
  | _ => none

def decimals (cs : List Char) : List Char × List Char :=
  match cs with
  | '.' :: r => (digitsOf? Char.isDigit r).getD ([], cs)
  | _ => ([], cs)

def power? : List Char → Option (Int × List Char)
  | e :: r => do
    if e ≠ 'e' && e ≠ 'E' then none
    let (negative, r) := signed r
    let (ds, rest) ← digitsOf? Char.isDigit r
    return (withSign negative (ofDigits ds), rest)
  | [] => none

def decimal? (cs : List Char) : Option (Except Failure (Value × List Char)) := do
  let (negative, body) := signed cs
  let (whole, r) ← match body with
    | '0' :: r => some (['0'], r)
    | r => digitsOf? Char.isDigit r
  let (fraction, afterFraction) := decimals r
  match power? afterFraction with
  | some (e, rest) =>
    return .ok (.float (.ofDecimal negative (ofDigits (whole ++ fraction)) (e - fraction.length)), rest)
  | none =>
    if !fraction.isEmpty then
      return .ok (.float (.ofDecimal negative (ofDigits (whole ++ fraction)) (-fraction.length)), afterFraction)
    else if whole.length > maxDecimalDigits then return .error .integerTooLong
    else return .ok (.int (withSign negative (ofDigits whole)), r)

def word? (cs : List Char) : Option (Double × List Char) :=
  let (negative, body) := signed cs
  match after? "inf" body, after? "nan" body with
  | some r, _ => some (.infinite negative, r)
  | none, some r => some (.nan, r)
  | none, none => none

def number (cs : List Char) : Except Failure (Value × List Char) :=
  match marked? cs with
  | some (n, r) => .ok (.int n, r)
  | none =>
    match decimal? cs with
    | some x => x
    | none =>
      match word? cs with
      | some (x, r) => .ok (.float x, r)
      | none => malformed

end ClientCompiler.Toml
