import ClientCompiler.Fault
import ClientCompiler.Text.Blank
import ClientCompiler.Web.Context
import ClientCompiler.Web.Direction
import ClientCompiler.Web.LabelCharacter
import ClientCompiler.Web.Punycode

/-!
The labels of a host name, which dots part from each other. A label that is not ASCII has an ASCII
spelling, `xn--` and its Punycode, and obeys the same rules in both.
-/

namespace ClientCompiler.Web.Label

def maxNameLength : Nat := 254

def maxLength : Nat := 63

def malformed {α : Type} : Except HostFault α := .error .malformed

/-- Hyphens part the characters of a label, and two of them do not stand third and fourth. -/
def hyphensFit (label : List Nat) : Bool :=
  (label.drop 2).take 2 ≠ [0x2D, 0x2D] && label.head? ≠ some 0x2D && label.getLast? ≠ some 0x2D

/-- Each character is one of labels, or fits between those before it, given from the end, and those
after it. -/
def checkCharacters (before : List Nat) : List Nat → Except HostFault Unit
  | [] => .ok ()
  | n :: after =>
    if isLabelCharacter n then checkCharacters (n :: before) after
    else if isJoiner n then
      if joinerFits before n after then checkCharacters (n :: before) after else malformed
    else if isScriptSign n then
      if signFits before n after then checkCharacters (n :: before) after else .error .context
    else .error .character

/-- The rules for a label as it is read, in the order in which a broken one is told. -/
def check (label : List Nat) : Except HostFault Unit :=
  if label.isEmpty || maxNameLength < label.length || !Text.isComposed label || !hyphensFit label ||
      label.head?.any Text.isMark then malformed
  else do
    checkCharacters [] label
    if Direction.agree (label.map directionOf) then .ok () else .error .direction

def spelledMark : List Char := "xn--".toList

/-- Checks an ASCII label, and what it spells if it spells another. -/
def checkSpelled (label : List Char) : Except HostFault Unit :=
  let label := Text.lowerAscii label
  match Text.dropPrefix? spelledMark label with
  | none => check (label.map Char.toNat)
  | some spelling =>
    if spelling.isEmpty || spelling.getLast? = some '-' then malformed
    else match Punycode.decode? spelling with
      | none => malformed
      | some spelled => check spelled

def isAscii (s : List Char) : Bool := s.all fun c => c.toNat < 0x80

def spelled (label : List Char) : Except HostFault (List Char) := do
  let s ← if isAscii label then do
      checkSpelled label
      .ok label
    else do
      let numbers := label.map Char.toNat
      check numbers
      .ok (spelledMark ++ Punycode.encode numbers)
  if maxLength < s.length then malformed else .ok s

end ClientCompiler.Web.Label
