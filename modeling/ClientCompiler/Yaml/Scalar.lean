import ClientCompiler.Yaml.Cursor

/-!
The text of scalars: plain, quoted, literal and folded. Lines are folded into one by a space, and
a line end stays where a blank line follows it.
-/

namespace ClientCompiler.Yaml

def isHex (c : Char) : Bool :=
  ('0' ≤ c && c ≤ '9') || ('a' ≤ c && c ≤ 'f') || ('A' ≤ c && c ≤ 'F')

def hexDigitValue (c : Char) : Nat :=
  if c ≤ '9' then c.toNat - 48 else if 'a' ≤ c then c.toNat - 87 else c.toNat - 55

def hexNumber (ds : List Char) : Nat := ds.foldl (fun n c => n * 16 + hexDigitValue c) 0

/-- What a line end and the blank lines after it leave of a text. -/
def folded (lineEnd : List Char) (breaks : List Char) : List Char :=
  if lineEnd ≠ ['\n'] then lineEnd ++ breaks
  else if breaks.isEmpty then [' '] else breaks

/-! ## Quoted scalars -/

def simpleEscape? : Char → Option Char
  | '0' => some '\x00'
  | 'a' => some '\x07'
  | 'b' => some '\x08'
  | 't' => some '\t'
  | '\t' => some '\t'
  | 'n' => some '\n'
  | 'v' => some '\x0b'
  | 'f' => some '\x0c'
  | 'r' => some '\r'
  | 'e' => some '\x1b'
  | ' ' => some ' '
  | '"' => some '"'
  | '\\' => some '\\'
  | '/' => some '/'
  | 'N' => some '\x85'
  | '_' => some '\xa0'
  | 'L' => some '\u2028'
  | 'P' => some '\u2029'
  | _ => none

def escapeWidth? : Char → Option Nat
  | 'x' => some 2
  | 'u' => some 4
  | 'U' => some 8
  | _ => none

/-- The line ends up to the next text inside quotes. A document marker is not allowed there. -/
def quotedBreaks : Nat → Cursor → Except Failure (List Char × Cursor)
  | 0, _ => .error .malformed
  | fuel + 1, c =>
    if c.atDocumentMarker then .error .malformed
    else
      let c := (c.takeRun fun ch => ch = ' ' || ch = '\t').2
      if (c.peek.map isBreak).getD false then do
        let (b, c) := c.lineBreak
        let (bs, c) ← quotedBreaks fuel c
        return (b ++ bs, c)
      else return ([], c)

def quotedSpaces (c : Cursor) : Except Failure (List Char × Cursor) :=
  let (spaces, c) := c.takeRun fun ch => ch = ' ' || ch = '\t'
  match c.peek with
  | none => .error .malformed
  | some ch =>
    if isBreak ch then do
      let (lineEnd, c) := c.lineBreak
      let (breaks, c) ← quotedBreaks (c.rest.length + 1) c
      return (folded lineEnd breaks, c)
    else return (spaces, c)

/-- The character of a numeric escape; half of a surrogate pair gives the replacement character. -/
def escapedChar (n : Nat) : Except Failure Char :=
  if n > 0x7FFFFFFF then .error .overflow
  else if n > 0x10FFFF then .error .badValue
  else if 0xD800 ≤ n && n < 0xE000 then .ok '\uFFFD'
  else .ok (Char.ofNat n)

def quotedText (double : Bool) : Nat → Cursor → Except Failure (List Char × Cursor)
  | 0, _ => .error .malformed
  | fuel + 1, c =>
    let (run, c) := c.takeRun fun ch =>
      !(ch = '\'' || ch = '"' || ch = '\\' || ch = ' ' || ch = '\t' || isBreak ch)
    let more (piece : List Char) (c : Cursor) : Except Failure (List Char × Cursor) := do
      let (r, c) ← quotedText double fuel c
      return (run ++ piece ++ r, c)
    match double, c.peek with
    | false, some '\'' =>
      if c.peekAt 1 = some '\'' then more ['\''] (c.advance 2) else .ok (run, c)
    | false, some '"' => more ['"'] c.next
    | false, some '\\' => more ['\\'] c.next
    | true, some '\'' => more ['\''] c.next
    | true, some '\\' =>
      let c := c.next
      match c.peek with
      | none => .error .malformed
      | some e =>
        match simpleEscape? e with
        | some ch => more [ch] c.next
        | none =>
          match escapeWidth? e with
          | some width => do
            let digits := c.next.rest.take width
            if digits.length = width && digits.all isHex then
              more [← escapedChar (hexNumber digits)] (c.advance (width + 1))
            else .error .malformed
          | none =>
            if isBreak e then do
              let c := c.lineBreak.2
              let (bs, c) ← quotedBreaks (c.rest.length + 1) c
              more bs c
            else .error .malformed
    | _, _ => .ok (run, c)

def quotedRest (double : Bool) : Nat → Cursor → Except Failure (List Char × Cursor)
  | 0, _ => .error .malformed
  | fuel + 1, c => do
    if c.peek = some (if double then '"' else '\'') then return ([], c.next)
    let (spaces, c) ← quotedSpaces c
    let (text, c) ← quotedText double (c.rest.length + 1) c
    let (r, c) ← quotedRest double fuel c
    return (spaces ++ text ++ r, c)

def quotedScalar (double : Bool) (c : Cursor) : Except Failure (List Char × Cursor) := do
  let c := c.next
  let (text, c) ← quotedText double (c.rest.length + 1) c
  let (r, c) ← quotedRest double (c.rest.length + 1) c
  return (text ++ r, c)

/-! ## Block scalars -/

inductive Chomping where
  | clip
  | strip
  | keep
  deriving DecidableEq, Repr

def chomping? : Option Char → Option Chomping
  | some '+' => some .keep
  | some '-' => some .strip
  | _ => none

def increment? : Option Char → Option Nat
  | some c => if '0' ≤ c && c ≤ '9' then some (c.toNat - 48) else none
  | none => none

def blockHeader (c : Cursor) : Except Failure (Chomping × Option Nat × Cursor) := do
  let (chomp, inc, c) := match chomping? c.peek with
    | some ch =>
      match increment? c.next.peek with
      | some n => (ch, some n, c.advance 2)
      | none => (ch, none, c.next)
    | none =>
      match increment? c.peek with
      | some n =>
        match chomping? c.next.peek with
        | some ch => (ch, some n, c.advance 2)
        | none => (.clip, some n, c.next)
      | none => (.clip, none, c)
  if inc = some 0 then throw .malformed
  if endsWord c.peek then return (chomp, inc, c) else throw .malformed

/-- Blank lines at the start of a block scalar, and the greatest column that their spaces reach. -/
def leadingLines : Nat → Cursor → Nat → List Char × Nat × Cursor
  | 0, c, widest => ([], widest, c)
  | fuel + 1, c, widest =>
    match c.peek with
    | some ' ' =>
      let c := c.next
      leadingLines fuel c (max widest c.column)
    | some ch =>
      if isBreak ch then
        let (b, c) := c.lineBreak
        let (bs, widest, c) := leadingLines fuel c widest
        (b ++ bs, widest, c)
      else ([], widest, c)
    | none => ([], widest, c)

def indentTo (indent : Nat) (c : Cursor) : Cursor :=
  let run := c.rest.takeWhile (· = ' ')
  c.advance (min run.length (indent - c.column))

def blankLines (indent : Nat) : Nat → Cursor → List Char × Cursor
  | 0, c => ([], c)
  | fuel + 1, c =>
    let c := indentTo indent c
    if (c.peek.map isBreak).getD false then
      let (b, c) := c.lineBreak
      let (bs, c) := blankLines indent fuel c
      (b ++ bs, c)
    else ([], c)

def isSpaceOrTab : Option Char → Bool
  | some c => c = ' ' || c = '\t'
  | none => false

/-- The lines of a block scalar from one at its column on. Gives their text, the last line end and
the blank lines that follow it. -/
def blockLines (fold : Bool) (indent : Nat) :
    Nat → Cursor → List Char × List Char × List Char × Cursor
  | 0, c => ([], [], [], c)
  | fuel + 1, c =>
    let flush := !isSpaceOrTab c.peek
    let (line, c) := c.takeRun fun ch => !isBreak ch
    let (lineEnd, c) := c.lineBreak
    let (breaks, c) := blankLines indent (c.rest.length + 1) c
    if c.column = indent && c.peek.isSome then
      let joint :=
        if fold && lineEnd = ['\n'] && flush && !isSpaceOrTab c.peek then
          (if breaks.isEmpty then [' '] else [])
        else lineEnd
      let (text, lastEnd, lastBreaks, c) := blockLines fold indent fuel c
      (line ++ joint ++ breaks ++ text, lastEnd, lastBreaks, c)
    else (line, lineEnd, breaks, c)

/-- A block scalar, from its indicator on, below a block indented by `parent`. -/
def blockScalar (fold : Bool) (parent : Int) (c : Cursor) : Except Failure (List Char × Cursor) := do
  let (chomp, inc, c) ← blockHeader c.next
  let c ← c.ignoredLine
  let least := (max (parent + 1) 1).toNat
  let (indent, breaks, c) := match inc with
    | none =>
      let (bs, widest, c) := leadingLines (c.rest.length + 1) c 0
      (max least widest, bs, c)
    | some n =>
      let indent := least + n - 1
      let (bs, c) := blankLines indent (c.rest.length + 1) c
      (indent, bs, c)
  if c.column = indent && c.peek.isSome then
    let (text, lastEnd, lastBreaks, c) := blockLines fold indent (c.rest.length + 1) c
    let tail := match chomp with
      | .strip => []
      | .clip => lastEnd
      | .keep => lastEnd ++ lastBreaks
    return (breaks ++ text ++ tail, c)
  else return (if chomp = .keep then breaks else [], c)

/-! ## Plain scalars -/

def isFlowIndicator (c : Char) : Bool := [',', '[', ']', '\x7b', '\x7d'].contains c

def plainRun (flow : Bool) : List Char → List Char
  | [] => []
  | ch :: rest =>
    if isGap (some ch) then []
    else if ch = ':' && (isGap rest.head? || (flow && rest.head?.any isFlowIndicator)) then []
    else if flow && (ch = '?' || isFlowIndicator ch) then []
    else ch :: plainRun flow rest

/-- Line ends and spaces after the first line end in a plain scalar; none if a document marker
comes next. -/
def plainBreaks : Nat → Cursor → Option (List Char) × Cursor
  | 0, c => (some [], c)
  | fuel + 1, c =>
    match c.peek with
    | some ' ' => plainBreaks fuel c.next
    | some ch =>
      if isBreak ch then
        let (b, c) := c.lineBreak
        if c.atDocumentMarker then (none, c)
        else
          let (bs, c) := plainBreaks fuel c
          (bs.map (b ++ ·), c)
      else (some [], c)
    | none => (some [], c)

/-- White space inside a plain scalar, whether it held a line end, and the place after it. Nothing
joins the scalar to a document marker. -/
def plainSpaces (c : Cursor) : List Char × Bool × Cursor :=
  let (spaces, c) := c.takeRun (· = ' ')
  if (c.peek.map isBreak).getD false then
    let (lineEnd, c) := c.lineBreak
    if c.atDocumentMarker then ([], true, c)
    else match plainBreaks (c.rest.length + 1) c with
      | (none, c) => ([], true, c)
      | (some breaks, c) => (folded lineEnd breaks, true, c)
  else (spaces, false, c)

/-- The words of a plain scalar. `sawBreak` tells whether the white space before the present place
held a line end. -/
def plainWords (flow : Bool) (indent : Int) :
    Nat → List Char → Bool → Cursor → List Char × Bool × Cursor
  | 0, _, sawBreak, c => ([], sawBreak, c)
  | fuel + 1, spaces, sawBreak, c =>
    if c.peek = some '#' then ([], sawBreak, c)
    else
      let run := plainRun flow c.rest
      if run.isEmpty then ([], sawBreak, c)
      else
        let c := c.advance run.length
        let (gap, broke, c) := plainSpaces c
        if gap.isEmpty || c.peek = some '#' || (!flow && (c.column : Int) < indent) then
          (spaces ++ run, broke, c)
        else
          let (more, sawBreak, c) := plainWords flow indent fuel gap broke c
          (spaces ++ run ++ more, sawBreak, c)

/-- A plain scalar below a block indented by `parent`, and whether it ended after a line end. -/
def plainScalar (flow : Bool) (parent : Int) (c : Cursor) : List Char × Bool × Cursor :=
  plainWords flow (parent + 1) (c.rest.length + 1) [] false c

end ClientCompiler.Yaml
