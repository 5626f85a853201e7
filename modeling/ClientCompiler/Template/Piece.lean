import ClientCompiler.Template.Token

/-!
The pieces of a template: text that is copied, and tags cut into tokens. White space before a tag
of a statement is dropped where only it stands on the line, and so is the line end after such a tag;
a hyphen inside a tag drops all white space on its side.
-/

namespace ClientCompiler.Template

inductive Piece where
  | text (s : List Char)
  | output (ts : List Token)
  | statement (ts : List Token)
  deriving DecidableEq, Repr

inductive TagKind where
  | output
  | statement
  | comment
  deriving DecidableEq, Repr

def TagKind.ofChar? : Char → Option TagKind
  | '\x7b' => some .output
  | '%' => some .statement
  | '#' => some .comment
  | _ => none

def findTag : List Char → List Char × Option (TagKind × List Char)
  | [] => ([], none)
  | '\x7b' :: c :: rest =>
    match TagKind.ofChar? c with
    | some kind => ([], some (kind, rest))
    | none =>
      let (text, found) := findTag (c :: rest)
      ('\x7b' :: text, found)
  | c :: rest =>
    let (text, found) := findTag rest
    (c :: text, found)

def openingSign : List Char → Option Char × List Char
  | '-' :: r => (some '-', r)
  | '+' :: r => (some '+', r)
  | r => (none, r)

/-- A text without the white space on its last line, if nothing else stands there. Where there is no
line end in it, `lineStart` tells whether it begins a line. -/
def dropIndent (lineStart : Bool) (text : List Char) : List Char :=
  let lastLine := (text.reverse.takeWhile (· ≠ '\n')).reverse
  let before := text.take (text.length - lastLine.length)
  if (lineStart || !before.isEmpty) && lastLine.all Text.isBlank then before else text

def textBefore (sign : Option Char) (indents lineStart : Bool) (text : List Char) : List Char :=
  match sign with
  | some '-' => Text.trimRight text
  | some _ => text
  | none => if indents then dropIndent lineStart text else text

def afterHyphen (rest : List Char) : List Char × Bool :=
  ((Text.trimLeft rest), (rest.takeWhile Text.isBlank).getLast? = some '\n')

def afterNewline : List Char → List Char × Bool
  | '\n' :: rest => (rest, true)
  | rest => (rest, false)

/-- What follows the end of a statement or a comment, whose second last character is `mark`. -/
def tagEnd? (mark : Char) : List Char → Option (List Char × Bool)
  | '+' :: m :: '\x7d' :: rest => if m = mark then some (rest, false) else none
  | '-' :: m :: '\x7d' :: rest => if m = mark then some (afterHyphen rest) else none
  | m :: '\x7d' :: rest => if m = mark then some (afterNewline rest) else none
  | _ => none

def outputEnd? : List Char → Option (List Char × Bool)
  | '-' :: '\x7d' :: '\x7d' :: rest => some (afterHyphen rest)
  | '\x7d' :: '\x7d' :: rest => some (rest, false)
  | _ => none

/-! ## Pieces -/

/-- What follows the end of a comment; a comment may be open only where the text ends. -/
def afterComment : List Char → Option (List Char × Bool)
  | [] => none
  | c :: rest =>
    match tagEnd? '#' (c :: rest) with
    | some found => some found
    | none => afterComment rest

def wordTag? (word : String) (cs : List Char) : Option (List Char) :=
  (Text.dropPrefix? word.toList (Text.trimLeft cs)).map Text.trimLeft

def rawStart? (cs : List Char) : Option (List Char × Bool) :=
  match wordTag? "raw" cs with
  | some ('-' :: '%' :: '\x7d' :: rest) => some (afterHyphen rest)
  | some ('%' :: '\x7d' :: rest) => some (rest, false)
  | _ => none

def rawText : List Char → Option (List Char × Option Char × List Char × Bool)
  | [] => none
  | c :: rest =>
    let found := match c :: rest with
      | '\x7b' :: '%' :: r =>
        let (sign, r) := openingSign r
        match (wordTag? "endraw" r).bind (tagEnd? '%') with
        | some (after, lineStart) => some ([], sign, after, lineStart)
        | none => none
      | _ => none
    match found with
    | some f => some f
    | none => (rawText rest).map fun (text, more) => (c :: text, more)

def consText (s : List Char) (ps : List Piece) : List Piece := if s.isEmpty then ps else .text s :: ps

/-- The pieces of a text, of which `lineStart` tells whether it begins a line. -/
def pieces : Nat → Bool → List Char → Option (List Piece)
  | 0, _, _ => none
  | fuel + 1, lineStart, cs =>
    match findTag cs with
    | (text, none) => some (consText text [])
    | (text, some (kind, rest)) =>
      let (sign, rest) := openingSign rest
      let text := textBefore sign (kind ≠ .output) lineStart text
      match kind with
      | .comment =>
        if rest.isEmpty then some (consText text [])
        else do
          let (rest, lineStart) ← afterComment rest
          return consText text (← pieces fuel lineStart rest)
      | .output => do
        let (ts, rest, lineStart) ← tagTokens outputEnd? (rest.length + 1) [] false rest
        return consText text (.output ts :: (← pieces fuel lineStart rest))
      | .statement =>
        match rawStart? rest with
        | some (rest, lineStart) =>
          if rest.isEmpty then some (consText text [])
          else do
            let (raw, sign, rest, after) ← rawText rest
            let raw := textBefore sign true lineStart raw
            return consText text (consText raw (← pieces fuel after rest))
        | none => do
          let (ts, rest, lineStart) ← tagTokens (tagEnd? '%') (rest.length + 1) [] false rest
          return consText text (.statement ts :: (← pieces fuel lineStart rest))

/-- The pieces of a template, or none if a tag in it has no end or no meaning. -/
def piecesOf? (text : List Char) : Option (List Piece) :=
  let text := Text.normalizeNewlines text
  pieces (text.length + 1) true text

end ClientCompiler.Template
