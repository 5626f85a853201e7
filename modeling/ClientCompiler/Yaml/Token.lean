import ClientCompiler.Number.Decimal
import ClientCompiler.Yaml.Tag

/-!
The tokens of a YAML text. A key is known for one only at its colon, so that the places where a key
may have started are kept, and the tokens that announce it are put there afterwards.
-/

namespace ClientCompiler.Yaml

inductive Directive where
  | version (major : Nat)
  | handle (name stands : List Char)
  | unknown
  deriving DecidableEq, Repr

inductive Token where
  | directive (d : Directive)
  | documentStart
  | documentEnd
  | blockSequenceStart
  | blockMappingStart
  | blockEnd
  | flowSequenceStart
  | flowSequenceEnd
  | flowMappingStart
  | flowMappingEnd
  | blockEntry
  | flowEntry
  | key
  | value
  | reference (name : List Char)
  | anchor (name : List Char)
  | tag (t : WrittenTag)
  | scalar (text : List Char) (plain : Bool)
  deriving DecidableEq, Repr

/-- A place where a key may have started: the number of its first token, and whether the text there
can only be a key. -/
structure KeyPlace where
  level : Nat
  token : Nat
  required : Bool
  index : Nat
  line : Nat
  column : Nat

/-- What is known between two tokens. The tokens are kept with the newest first. -/
structure Lexer where
  cursor : Cursor
  tokens : List Token
  count : Nat
  flowLevel : Nat
  indent : Int
  indents : List Int
  keyAllowed : Bool
  keyPlaces : List KeyPlace

namespace Lexer

def start (text : List Char) : Lexer := ⟨Cursor.start text, [], 0, 0, -1, [], true, []⟩

def inFlow (s : Lexer) : Bool := s.flowLevel > 0

def push (t : Token) (s : Lexer) : Lexer := { s with tokens := t :: s.tokens, count := s.count + 1 }

def insertAt (number : Nat) (t : Token) (s : Lexer) : Lexer :=
  let later := s.count - number
  { s with tokens := s.tokens.take later ++ t :: s.tokens.drop later, count := s.count + 1 }

/-! ## Key places and columns -/

/-- A key has to end on its line, within 1024 characters. -/
def dropStaleKeys (s : Lexer) : Except Failure Lexer :=
  let stale (k : KeyPlace) : Bool := k.line ≠ s.cursor.line || s.cursor.index > k.index + 1024
  if s.keyPlaces.any fun k => stale k && k.required then .error .malformed
  else .ok { s with keyPlaces := s.keyPlaces.filter fun k => !stale k }

def keyPlace? (s : Lexer) : Option KeyPlace := s.keyPlaces.find? (·.level = s.flowLevel)

def forgetKey (s : Lexer) : Except Failure Lexer :=
  if s.keyPlace?.any (·.required) then .error .malformed
  else .ok { s with keyPlaces := s.keyPlaces.filter (·.level ≠ s.flowLevel) }

def noteKey (s : Lexer) : Except Failure Lexer := do
  if !s.keyAllowed then return s
  let s ← s.forgetKey
  let c := s.cursor
  let required := !s.inFlow && s.indent = c.column
  return { s with keyPlaces := ⟨s.flowLevel, s.count, required, c.index, c.line, c.column⟩ :: s.keyPlaces }

def closeBlocks (column : Int) (s : Lexer) : Lexer :=
  if s.inFlow then s else go s.indents s
where
  go : List Int → Lexer → Lexer
    | [], s => s
    | i :: is, s => if s.indent > column then go is { s.push .blockEnd with indent := i, indents := is } else s

def openBlock (column : Nat) (s : Lexer) : Bool × Lexer :=
  if s.indent < column then (true, { s with indents := s.indent :: s.indents, indent := column })
  else (false, s)

/-! ## Between tokens -/

/-- Passes spaces, comments and line ends. A key may start on a new line of a block. -/
def skipBlank : Nat → Lexer → Lexer
  | 0, s => s
  | fuel + 1, s =>
    let c := s.cursor.skipSpaces
    let c := if c.peek = some '#' then (c.takeRun fun ch => !isBreak ch).2 else c
    if c.peek.any isBreak then
      skipBlank fuel { s with cursor := c.lineBreak.2, keyAllowed := s.keyAllowed || !s.inFlow }
    else { s with cursor := c }

/-! ## Tokens -/

def directiveNumber (c : Cursor) : Except Failure (Nat × Cursor) :=
  match c.takeRun Char.isDigit with
  | ([], _) => .error .malformed
  | (ds, c) => .ok (ofDigits ds, c)

def directive (c : Cursor) : Except Failure (Directive × Cursor) := do
  let (name, c) := c.next.takeRun isNameChar
  if name.isEmpty || !endsWord c.peek then throw .malformed
  let (d, c) ← (do
    if name = "YAML".toList then
      let (major, c) ← directiveNumber c.skipSpaces
      if c.peek ≠ some '.' then throw .malformed
      let (_, c) ← directiveNumber c.next
      if endsWord c.peek then return (.version major, c) else throw .malformed
    else if name = "TAG".toList then
      let (handle, c) ← tagHandle c.skipSpaces
      if c.peek ≠ some ' ' then throw .malformed
      let (stands, c) ← uri c.skipSpaces
      if endsWord c.peek then return (.handle handle stands, c) else throw .malformed
    else return (.unknown, (c.takeRun fun ch => !isBreak ch).2) : Except Failure (Directive × Cursor))
  return (d, ← c.ignoredLine)

def anchorName (c : Cursor) : Except Failure (List Char × Cursor) :=
  let (name, c) := c.next.takeRun isNameChar
  let ends := isGap c.peek || c.peek.any fun ch => "?:,]\x7d%@".toList.contains ch || ch = '\x60'
  if name.isEmpty || !ends then .error .malformed else .ok (name, c)

/-- A token that stands at the margin and closes every block. -/
def margin (t : Token) (c : Cursor) (s : Lexer) : Except Failure Lexer := do
  let s ← (s.closeBlocks (-1)).forgetKey
  return { s.push t with keyAllowed := false, cursor := c }

def content (t : Token) (c : Cursor) (s : Lexer) (keyAllowed : Bool) : Except Failure Lexer := do
  let s ← s.noteKey
  return { s.push t with keyAllowed, cursor := c }

def openFlow (t : Token) (s : Lexer) : Except Failure Lexer := do
  let s ← s.content t s.cursor.next true
  return { s with flowLevel := s.flowLevel + 1 }

def closeFlow (t : Token) (s : Lexer) : Except Failure Lexer := do
  if !s.inFlow then throw .malformed
  let s ← s.forgetKey
  return { s.push t with flowLevel := s.flowLevel - 1, keyAllowed := false, cursor := s.cursor.next }

def flowEntry (s : Lexer) : Except Failure Lexer := do
  let s ← s.forgetKey
  return { s.push .flowEntry with keyAllowed := true, cursor := s.cursor.next }

def announceBlock (t : Token) (s : Lexer) : Except Failure Lexer :=
  if s.inFlow then .ok s
  else if !s.keyAllowed then .error .malformed
  else
    let (isNew, s) := s.openBlock s.cursor.column
    .ok (if isNew then s.push t else s)

def blockEntry (s : Lexer) : Except Failure Lexer := do
  let s ← s.announceBlock .blockSequenceStart
  let s ← s.forgetKey
  return { s.push .blockEntry with keyAllowed := true, cursor := s.cursor.next }

def explicitKey (s : Lexer) : Except Failure Lexer := do
  let s ← s.announceBlock .blockMappingStart
  let s ← s.forgetKey
  return { s.push .key with keyAllowed := !s.inFlow, cursor := s.cursor.next }

def mappingValue (s : Lexer) : Except Failure Lexer := do
  match s.keyPlace? with
  | some k =>
    let s := { s with keyPlaces := s.keyPlaces.filter (·.level ≠ s.flowLevel) }
    let s := s.insertAt k.token .key
    let s := if s.inFlow then s else
      let (isNew, s) := s.openBlock k.column
      if isNew then s.insertAt k.token .blockMappingStart else s
    return { s.push .value with keyAllowed := false, cursor := s.cursor.next }
  | none =>
    let s ← s.announceBlock .blockMappingStart
    return { s.push .value with keyAllowed := !s.inFlow, cursor := s.cursor.next }

def block (fold : Bool) (s : Lexer) : Except Failure Lexer := do
  let s ← s.forgetKey
  let (text, c) ← blockScalar fold s.indent s.cursor
  return { s.push (.scalar text false) with keyAllowed := true, cursor := c }

def quoted (double : Bool) (s : Lexer) : Except Failure Lexer := do
  let s ← s.noteKey
  let (text, c) ← quotedScalar double s.cursor
  return { s.push (.scalar text false) with keyAllowed := false, cursor := c }

def plain (s : Lexer) : Except Failure Lexer :=
  let (text, sawBreak, c) := plainScalar s.inFlow s.indent s.cursor
  s.content (.scalar text true) c sawBreak

def startsPlain (flow : Bool) (ch : Char) (following : Option Char) : Bool :=
  !("-?:,[]\x7b\x7d#&*!|>'\"%@ \t".toList.contains ch || ch = '\x60' || isBreak ch) ||
    (!isGap following && (ch = '-' || (!flow && (ch = '?' || ch = ':'))))

def token (ch : Char) (s : Lexer) : Except Failure Lexer :=
  let c := s.cursor
  let following := c.peekAt 1
  let spaced := s.inFlow || isGap following
  if c.column = 0 && ch = '%' then do
    let (d, c) ← directive c
    s.margin (.directive d) c
  else if c.column = 0 && c.atDocumentMarker then
    s.margin (if ch = '-' then .documentStart else .documentEnd) (c.advance 3)
  else if ch = '[' then s.openFlow .flowSequenceStart
  else if ch = '\x7b' then s.openFlow .flowMappingStart
  else if ch = ']' then s.closeFlow .flowSequenceEnd
  else if ch = '\x7d' then s.closeFlow .flowMappingEnd
  else if ch = ',' then s.flowEntry
  else if ch = '-' && isGap following then s.blockEntry
  else if ch = '?' && spaced then s.explicitKey
  else if ch = ':' && spaced then s.mappingValue
  else if ch = '*' then do
    let (name, c) ← anchorName c
    s.content (.reference name) c false
  else if ch = '&' then do
    let (name, c) ← anchorName c
    s.content (.anchor name) c false
  else if ch = '!' then do
    let (t, c) ← writtenTag c
    s.content (.tag t) c false
  else if ch = '|' && !s.inFlow then s.block false
  else if ch = '>' && !s.inFlow then s.block true
  else if ch = '\'' then s.quoted false
  else if ch = '"' then s.quoted true
  else if startsPlain s.inFlow ch following then s.plain
  else .error .malformed

def run : Nat → Lexer → Except Failure Lexer
  | 0, _ => .error .malformed
  | fuel + 1, s => do
    let s := skipBlank (s.cursor.rest.length + 1) s
    let s ← s.dropStaleKeys
    let s := s.closeBlocks s.cursor.column
    match s.cursor.peek with
    | none => (s.closeBlocks (-1)).forgetKey
    | some ch => do
      let s ← s.token ch
      run fuel s

end Lexer

/-- The tokens of a text, where a byte order mark may come first. -/
def tokens (text : List Char) : Except Failure (List Token) := do
  if !text.all isAllowed then throw .malformed
  let s := Lexer.start text
  let s := if text.head? = some '\uFEFF' then { s with cursor := s.cursor.next } else s
  let s ← s.run (text.length + 1)
  return s.tokens.reverse

end ClientCompiler.Yaml
