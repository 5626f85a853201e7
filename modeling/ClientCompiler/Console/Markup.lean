import ClientCompiler.Console.Picture
import ClientCompiler.Fault
import ClientCompiler.Text.Blank

/-!
Text with style tags in square brackets. A console that is no terminal shows the text without its
tags; a closing tag without an open one is an error.
-/

namespace ClientCompiler.Console

inductive MarkupPiece where
  | text (s : List Char)
  | tag (name : List Char)
  deriving DecidableEq, Repr

def startsTag (c : Char) : Bool := ('a' ≤ c && c ≤ 'z') || c = '#' || c = '/' || c = '@'

def bracketed : List Char → Option (List Char × List Char)
  | [] => none
  | c :: cs =>
    if c = ']' then some ([], cs)
    else if c = '[' then none
    else (bracketed cs).map fun (inner, rest) => (c :: inner, rest)

def tagAfter : List Char → Option (List Char × List Char)
  | c :: cs => if startsTag c then (bracketed cs).map fun (inner, rest) => (c :: inner, rest) else none
  | [] => none

def unescapeBrackets : List Char → List Char
  | '\\' :: '[' :: cs => '[' :: unescapeBrackets cs
  | c :: cs => c :: unescapeBrackets cs
  | [] => []

def flushText (pending : List Char) : List MarkupPiece :=
  if pending.isEmpty then [] else [.text (unescapeBrackets pending)]

/-- The pieces of a text after `pending`, in steps bounded by `fuel`. Of the backslashes before a
tag two make one, and an odd one makes the tag a text. -/
def piecesFrom : Nat → List Char → List Char → List MarkupPiece
  | 0, pending, s => flushText (pending ++ s)
  | _, pending, [] => flushText pending
  | fuel + 1, pending, c :: cs =>
    let slashes := (c :: cs).takeWhile (· = '\\')
    match (c :: cs).dropWhile (· = '\\') with
    | [] => flushText (pending ++ slashes)
    | d :: ds =>
      match if d = '[' then tagAfter ds else none with
      | some (inner, rest) =>
        let half := slashes.length / 2
        flushText pending ++ (if half = 0 then [] else [.text (List.replicate half '\\')]) ++
          (if slashes.length % 2 = 1 then [.text (unescapeBrackets ('[' :: inner ++ [']']))]
            else [.tag (inner.takeWhile (· ≠ '='))]) ++ piecesFrom fuel [] rest
      | none => piecesFrom fuel (pending ++ slashes ++ [d]) ds

def pieces (s : List Char) : List MarkupPiece := piecesFrom s.length [] s

/-! ## Names of styles -/

def attributes : List String :=
  ["bold", "dim", "italic", "underline", "blink", "blink2", "reverse", "conceal", "strike",
    "underline2", "frame", "encircle", "overline"]

def attributeAliases : List (String × String) :=
  [("b", "bold"), ("d", "dim"), ("i", "italic"), ("u", "underline"), ("r", "reverse"),
    ("c", "conceal"), ("s", "strike"), ("uu", "underline2"), ("o", "overline")]

def colours : List String :=
  ["default", "black", "red", "green", "yellow", "blue", "magenta", "cyan", "white", "bright_black",
    "bright_red", "bright_green", "bright_yellow", "bright_blue", "bright_magenta", "bright_cyan",
    "bright_white"]

def attribute? (word : String) : Option String :=
  if attributes.contains word then some word else attributeAliases.lookup word

structure StyleParts where
  on : List String
  off : List String
  colour : Option String
  behind : Option String

def styleParts (p : StyleParts) : List String → Option StyleParts
  | [] => some p
  | "on" :: word :: rest =>
    if colours.contains word then styleParts { p with behind := some word } rest else none
  | "not" :: word :: rest =>
    match attribute? word with
    | some a => styleParts { p with on := p.on.filter (· ≠ a), off := a :: p.off } rest
    | none => none
  | word :: rest =>
    match attribute? word with
    | some a => styleParts { p with on := a :: p.on, off := p.off.filter (· ≠ a) } rest
    | none => if colours.contains word then styleParts { p with colour := some word } rest else none

def StyleParts.words (p : StyleParts) : List String :=
  (attributes.filterMap fun a =>
    if p.on.contains a then some a else if p.off.contains a then some ("not " ++ a) else none) ++
    p.colour.toList ++ (p.behind.map ("on " ++ ·)).toList

/-- The one name for all spellings of a style. A name that is no style stands for itself. -/
def styleName (s : List Char) : String :=
  let words := (Text.words (Text.lowerAscii s)).map String.ofList
  match styleParts ⟨[], [], none, none⟩ words with
  | some p => if p.words.isEmpty then "none" else " ".intercalate p.words
  | none => String.ofList (Text.lowerAscii (Text.trim s))

/-! ## Texts -/

/-- The style that a tag closes: the last one that is open, or the last one with the name. -/
def closeStyle (name : List Char) (opened : List String) : Except Fault (List String) :=
  if (Text.trim name).isEmpty then
    match opened with
    | [] => .error .unmatchedTag
    | _ :: rest => .ok rest
  else
    let s := styleName name
    if opened.contains s then .ok (opened.erase s) else .error .unmatchedTag

def piecesText (opened : List String) : List MarkupPiece → Except Fault (List Char)
  | [] => .ok []
  | .text s :: rest => (piecesText opened rest).map (Picture.shown s ++ ·)
  | .tag name :: rest =>
    match name with
    | '/' :: closed => do
      let opened ← closeStyle closed opened
      piecesText opened rest
    | _ => piecesText (styleName name :: opened) rest

def plainText (s : List Char) : Except Fault (List Char) :=
  if s.contains '[' then piecesText [] (pieces s) else .ok (Picture.shown s)

end ClientCompiler.Console
