import ClientCompiler.Console.Markup
import ClientCompiler.Console.Wrap
import ClientCompiler.Number.Natural
import ClientCompiler.Value

/-!
Tables of texts: separated by tabs, as a list of objects, or drawn with boxes and styles.
-/

namespace ClientCompiler

structure Table where
  headers : List String
  rows : List (List String)
  title : Option String
  deriving DecidableEq, Repr

namespace Table

def tabbed (t : Table) : List String :=
  "\t".intercalate t.headers :: t.rows.map fun row => "\t".intercalate row

/-- One object for every row, with the headers as keys. Cells without a header are left out. -/
def objects (t : Table) : Value :=
  .list (t.rows.map fun row => .map (Value.ofPairs ((t.headers.zip row).map fun (h, c) => (.str h, .str c))))

end Table

namespace Console

inductive Style where
  | plain
  | heading
  | title
  deriving DecidableEq, Repr

inductive Palette where
  | none
  | weights
  | colours
  deriving DecidableEq, Repr

structure Segment where
  text : List Char
  style : Style
  deriving DecidableEq, Repr

def Style.code? : Palette → Style → Option String
  | .none, _ => Option.none
  | _, .plain => Option.none
  | .weights, .heading => some "1"
  | .colours, .heading => some "1;36"
  | _, .title => some "3"

def Segment.render (p : Palette) (s : Segment) : List Char :=
  match s.style.code? p with
  | some code =>
    if s.text.isEmpty then []
    else '\x1b' :: '[' :: code.toList ++ 'm' :: s.text ++ "\x1b[0m".toList
  | none => s.text

def cropLine (room : Nat) : List Segment → List Segment
  | [] => []
  | s :: rest =>
    if cells s.text < room then s :: cropLine (room - cells s.text) rest
    else [{ s with text := crop room .fold s.text }]

namespace Drawing

structure Column where
  header : List Char
  cells : List (List Char)

/-- The lines of a text, however they end, for the measure of its width. -/
def measuredLines (s : List Char) : List (List Char) :=
  match s with
  | [] => [[]]
  | c :: cs =>
    match measuredLines cs with
    | [] => [[]]
    | l :: ls => if Text.isLineEnd c then [] :: l :: ls else (c :: l) :: ls

def textWidth (s : List Char) : Nat := ((measuredLines s).map cells).foldl max 0

def cellWidth (room : Nat) (s : List Char) : Nat :=
  if room < 1 then 0 else min room (2 + textWidth s)

def columnWidth (room : Nat) (c : Column) : Nat :=
  ((c.header :: c.cells).map (cellWidth room)).foldl max 0

/-! ## Widths that fit -/

/-- The quotient nearest to `a / b`; a half goes to the even neighbour. -/
def roundedQuotient (a b : Nat) : Nat :=
  let q := a / b
  let r := 2 * (a % b)
  if r < b then q else if b < r then q + 1 else if q % 2 = 0 then q else q + 1

/-- Takes `excess` from some of the values, each with its share and the most that it can give. -/
def reduce (excess ratioSum : Nat) : List (Nat × Nat × Nat) → List Nat
  | [] => []
  | (ratio, most, value) :: rest =>
    if 0 < ratio && 0 < ratioSum then
      let part := min most (roundedQuotient (ratio * excess) ratioSum)
      (value - part) :: reduce (excess - part) (ratioSum - ratio) rest
    else value :: reduce excess ratioSum rest

def reduceBy (excess : Nat) (shares : List (Nat × Nat × Nat)) : List Nat :=
  let shares := shares.map fun (ratio, most, value) => (if most = 0 then 0 else ratio, most, value)
  let ratioSum := total (shares.map Prod.fst)
  if ratioSum = 0 then shares.map fun s => s.2.2 else reduce excess ratioSum shares

/-- Narrows the widest columns down to the next widest, in steps bounded by `fuel`, until all fit. -/
def narrow (room : Nat) : Nat → List Nat → List Nat
  | 0, widths => widths
  | fuel + 1, widths =>
    let excess := total widths - room
    let widest := widths.foldl max 0
    let next := (widths.map fun w => if w = widest then 0 else w).foldl max 0
    if excess = 0 || widest = next then widths
    else
      let most := min excess (widest - next)
      narrow room fuel (reduceBy excess (widths.map fun w => (if w = widest then 1 else 0, most, w)))

def columnWidths (room : Nat) (columns : List Column) : List Nat :=
  let widths := columns.map fun c => max 1 (columnWidth room c)
  if total widths ≤ room then widths
  else
    let narrowed := narrow room (total widths + 1) widths
    let narrowed :=
      if total narrowed ≤ room then narrowed
      else reduceBy (total narrowed - room) (narrowed.map fun w => (1, w, w))
    narrowed.zipWith (fun w c => columnWidth w c) columns

/-! ## Rows -/

def cellLines (style : Style) (width : Nat) (s : List Char) : List (List Segment) :=
  if width ≤ 2 then []
  else (wrap (width - 2) .ellipsis s).map fun l =>
    [⟨[' '], style⟩, ⟨padRight (width - 2) l, style⟩, ⟨[' '], style⟩]

inductive Alignment where
  | top
  | bottom

def fillCell (a : Alignment) (style : Style) (height width : Nat) (lines : List (List Segment)) :
    List (List Segment) :=
  let blank : List Segment := [⟨List.replicate width ' ', style⟩]
  let filling := List.replicate (height - lines.length) blank
  let filled := match a with
    | .top => lines ++ filling
    | .bottom => filling ++ lines
  if filled.isEmpty then [[⟨List.replicate width ' ', .plain⟩]] else filled

def plainSegment (s : String) : Segment := ⟨s.toList, .plain⟩

def joinCells (edge : String) : Nat → List (List (List Segment)) → List (List Segment)
  | 0, _ => []
  | height + 1, cells =>
    (plainSegment edge :: (cells.map fun c => c.headD []).flatMap fun l => l ++ [plainSegment edge]) ::
      joinCells edge height (cells.map List.tail)

def rowLines (edge : String) (a : Alignment) (style : Style) (widths : List Nat)
    (texts : List (List Char)) : List (List Segment) :=
  let cells := widths.zipWith (fun w s => (w, cellLines style w s)) texts
  let height := (cells.map fun c => c.2.length).foldl max 0
  joinCells edge (max 1 height) (cells.map fun (w, lines) => fillCell a style height w lines)

def rule (left bar divider right : String) (widths : List Nat) : List Segment :=
  let bars := widths.map fun w => String.join (List.replicate w bar)
  [plainSegment (left ++ divider.intercalate bars ++ right)]

def columnsOf : Nat → List (List Char) → List (List (List Char)) → List Column
  | 0, _, _ => []
  | n + 1, headers, rows =>
    ⟨headers.headD [], rows.map fun r => r.headD []⟩ :: columnsOf n headers.tail (rows.map List.tail)

def titleLines (width : Nat) (s : List Char) : List (List Segment) :=
  (Text.splitOn '\n' s).flatMap fun line =>
    (fillLines width .fold [] 0 (wordsWithBlanks (expandTabs line))).map fun l =>
      [⟨centre width (crop width .fold (Text.trimRight (dropExcess width l))), .title⟩]

def shownText (s : String) : Except Fault (List Char) := (plainText s.toList).map withoutControls

def lines (width : Nat) (title : Option (List Char)) (headers : List (List Char))
    (rows : List (List (List Char))) (count : Nat) : List (List Segment) :=
  if count = 0 then [[]]
  else
    let columns := columnsOf count headers rows
    let widths := columnWidths (width - (count + 1)) columns
    let top := match title with
      | some s => titleLines (total widths + (count + 1)) s
      | none => []
    top ++ [rule "┏" "━" "┳" "┓" widths] ++
      rowLines "┃" .bottom .heading widths (columns.map Column.header) ++
      [rule "┡" "━" "╇" "┩" widths] ++
      (rows.flatMap fun row =>
        rowLines "│" .top .plain widths ((List.range count).map fun i => (row[i]?).getD [])) ++
      [rule "└" "─" "┴" "┘" widths]

end Drawing

/-- The drawing of a table, cut to the width of the console. Rows with more cells than headers make
more columns. -/
def drawTable (p : Palette) (width : Nat) (t : Table) : Except Fault (List Char) := do
  let title ← (t.title.filter (· ≠ "")).mapM Drawing.shownText
  let headers ← t.headers.mapM Drawing.shownText
  let rows ← t.rows.mapM fun row => row.mapM Drawing.shownText
  let count := (headers.length :: rows.map List.length).foldl max 0
  if width = 0 then return []
  return (Drawing.lines width title headers rows count).flatMap fun l =>
    (cropLine width l).flatMap (Segment.render p) ++ ['\n']

end Console
end ClientCompiler
