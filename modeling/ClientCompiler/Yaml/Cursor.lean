import ClientCompiler.Text.Blank

/-!
A place in a YAML text: the characters that are left, with their line and column.
-/

namespace ClientCompiler.Yaml

/-- Why a text is not a document. Everything but `malformed` is found in well-formed text: a number
or a date out of range, a number too large, a word or a text that a type does not know, a mapping
where a text is needed, or a text that is found only by looking into itself. -/
inductive Failure where
  | malformed
  | badValue
  | unknownWord
  | emptyText
  | noMatch
  | overflow
  | unfit
  | endless
  deriving DecidableEq, Repr

def isBreak (c : Char) : Bool :=
  c = '\n' || c = '\r' || c = '\x85' || c = '\u2028' || c = '\u2029'

def endsLine : Option Char → Bool
  | none => true
  | some c => isBreak c

def endsWord : Option Char → Bool
  | none => true
  | some c => c = ' ' || isBreak c

def isGap : Option Char → Bool
  | none => true
  | some c => c = ' ' || c = '\t' || isBreak c

def isAllowed (c : Char) : Bool :=
  let n := c.toNat
  n == 9 || n == 10 || n == 13 || (0x20 ≤ n && n ≤ 0x7E) || n == 0x85 ||
    (0xA0 ≤ n && n ≤ 0xD7FF) || (0xE000 ≤ n && n ≤ 0xFFFD) || 0x10000 ≤ n

structure Cursor where
  rest : List Char
  index : Nat
  line : Nat
  column : Nat

namespace Cursor

def start (text : List Char) : Cursor := ⟨text, 0, 0, 0⟩

def peek (c : Cursor) : Option Char := c.rest.head?

def peekAt (c : Cursor) (k : Nat) : Option Char := (c.rest.drop k).head?

/-- Passes one character. A carriage return before a line feed does not end the line, and a byte
order mark takes no column. -/
def next (c : Cursor) : Cursor :=
  match c.rest with
  | [] => c
  | ch :: rest =>
    if ch = '\r' && rest.head? ≠ some '\n' || (isBreak ch && ch ≠ '\r') then
      ⟨rest, c.index + 1, c.line + 1, 0⟩
    else if ch = '\uFEFF' then ⟨rest, c.index + 1, c.line, c.column⟩
    else ⟨rest, c.index + 1, c.line, c.column + 1⟩

def advance (c : Cursor) : Nat → Cursor
  | 0 => c
  | n + 1 => advance c.next n

def takeRun (c : Cursor) (p : Char → Bool) : List Char × Cursor :=
  let run := c.rest.takeWhile p
  (run, c.advance run.length)

def skipSpaces (c : Cursor) : Cursor := (c.takeRun (· = ' ')).2

def lineBreak (c : Cursor) : List Char × Cursor :=
  match c.rest with
  | '\r' :: '\n' :: _ => (['\n'], c.advance 2)
  | ch :: _ =>
    if ch = '\r' || ch = '\n' || ch = '\x85' then (['\n'], c.next)
    else if ch = '\u2028' || ch = '\u2029' then ([ch], c.next)
    else ([], c)
  | [] => ([], c)

/-- Whether a document marker comes next: three hyphens or three dots, and a gap. -/
def atDocumentMarker (c : Cursor) : Bool :=
  match c.rest with
  | '-' :: '-' :: '-' :: r => isGap r.head?
  | '.' :: '.' :: '.' :: r => isGap r.head?
  | _ => false

def ignoredLine (c : Cursor) : Except Failure Cursor :=
  let c := c.skipSpaces
  let c := if c.peek = some '#' then (c.takeRun fun ch => !isBreak ch).2 else c
  if endsLine c.peek then .ok c.lineBreak.2 else .error .malformed

end Cursor
end ClientCompiler.Yaml
