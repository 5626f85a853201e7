import ClientCompiler.Console.Cells
import ClientCompiler.Text.Blank

/-!
Text laid out in lines of a given width. Lines end between words; a word that is wider than a line
is cut, or left to be cropped, as the caller says.
-/

namespace ClientCompiler.Console

inductive Overflow where
  | fold
  | ellipsis
  deriving DecidableEq, Repr

def withoutControls (s : List Char) : List Char :=
  s.filter fun c => !(c = '\x07' || c = '\x08' || c = '\x0b' || c = '\x0c' || c = '\r')

/-- Puts blanks up to the next multiple of eight between parts of a line that start at a column. -/
def joinAtStops (column : Nat) : List (List Char) → List Char
  | [] => []
  | [last] => last
  | part :: rest =>
    let next := column + cells (part ++ [' '])
    let missing := (8 - next % 8) % 8
    part ++ List.replicate (missing + 1) ' ' ++ joinAtStops (next + missing) rest

def expandTabs (line : List Char) : List Char := joinAtStops 0 (Text.splitOn '\t' line)

def takeWord (s : List Char) : List Char × List Char :=
  let tail := s.dropWhile fun c => !Text.isBlank c
  ((s.takeWhile fun c => !Text.isBlank c) ++ tail.takeWhile Text.isBlank, tail.dropWhile Text.isBlank)

def wordsWithBlanksFrom : Nat → List Char → List (List Char)
  | 0, _ => []
  | _, [] => []
  | fuel + 1, c :: cs => (takeWord (c :: cs)).1 :: wordsWithBlanksFrom fuel (takeWord (c :: cs)).2

/-- The words of a text with the blanks around them: those in front belong to the first word, and
all others to the word before. Blanks alone are kept too. -/
def wordsWithBlanks (s : List Char) : List (List Char) :=
  match wordsWithBlanksFrom s.length (Text.trimLeft s) with
  | [] => if s.isEmpty then [] else [s]
  | w :: ws => (s.takeWhile Text.isBlank ++ w) :: ws

/-- Clusters put into pieces that fit into lines, after a piece that has begun with `used` cells. -/
def chopFrom (width : Nat) (begun : List Char) (used : Nat) : List Cluster → List (List Char)
  | [] => if used = 0 then [] else [begun]
  | k :: ks =>
    if used + k.cells ≤ width then chopFrom width (begun ++ k.text) (used + k.cells) ks
    else begun :: chopFrom width k.text k.cells ks

/-- The pieces of a word that is wider than a line. The first one is empty if nothing fits into it. -/
def chop (width : Nat) (word : List Char) : List (List Char) := chopFrom width [] 0 (clusters word)

/-- Puts words into lines, where `begun` is the line that has begun and `used` its cells. -/
def fillLines (width : Nat) (overflow : Overflow) (begun : List Char) (used : Nat) :
    List (List Char) → List (List Char)
  | [] => [begun]
  | w :: ws =>
    let needed := cells (Text.trimRight w)
    if used + needed ≤ width then fillLines width overflow (begun ++ w) (used + cells w) ws
    else if width < needed then
      match overflow with
      | .fold =>
        let pieces := if begun.isEmpty then (chop width w).dropWhile List.isEmpty else chop width w
        let last := pieces.getLast?.getD []
        (if begun.isEmpty then [] else [begun]) ++ pieces.dropLast ++
          fillLines width overflow last (cells last) ws
      | .ellipsis =>
        (if begun.isEmpty then [] else [begun]) ++ fillLines width overflow w (cells w) ws
    else if 0 < used && !begun.isEmpty then begun :: fillLines width overflow w (cells w) ws
    else fillLines width overflow (begun ++ w) used ws

def fitClusters (room : Nat) : List Cluster → List Char
  | [] => List.replicate room ' '
  | k :: ks =>
    if k.cells ≤ room then k.text ++ fitClusters (room - k.cells) ks else List.replicate room ' '

/-- A text that is wider than some cells, cut to them. A cluster cut in half leaves a blank. -/
def fit (room : Nat) (s : List Char) : List Char :=
  if room = 0 then [] else fitClusters room (clusters s)

def crop (width : Nat) (overflow : Overflow) (s : List Char) : List Char :=
  if cells s ≤ width then s
  else match overflow with
    | .fold => fit width s
    | .ellipsis => fit (width - 1) s ++ ['…']

/-- Drops blanks at the end of a line as far as the line has more characters than cells. -/
def dropExcess (width : Nat) (s : List Char) : List Char :=
  let blanks := s.length - (Text.trimRight s).length
  s.take (s.length - min blanks (s.length - width))

def wrap (width : Nat) (overflow : Overflow) (s : List Char) : List (List Char) :=
  (Text.splitOn '\n' s).flatMap fun line =>
    (fillLines width overflow [] 0 (wordsWithBlanks (expandTabs line))).map fun l =>
      crop width overflow (dropExcess width l)

def padRight (width : Nat) (s : List Char) : List Char := s ++ List.replicate (width - cells s) ' '

/-- A line in the middle of a width; an odd blank goes to the right. -/
def centre (width : Nat) (s : List Char) : List Char :=
  padRight width (List.replicate ((width - cells s) / 2) ' ' ++ s)

end ClientCompiler.Console
