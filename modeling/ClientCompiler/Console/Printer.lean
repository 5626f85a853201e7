import ClientCompiler.Console.Table
import ClientCompiler.Emission.Formatter
import ClientCompiler.Number.Reading

/-!
What a run prints. Data go to standard output in one of three formats; everything else goes to
standard error, which is taken for no terminal.
-/

namespace ClientCompiler

inductive FormatChoice where
  | auto
  | json
  | plain
  | rich
  deriving DecidableEq, Repr

def FormatChoice.ofName? (s : String) : Option FormatChoice :=
  if s = "auto" then some .auto
  else if s = "json" then some .json
  else if s = "plain" then some .plain
  else if s = "rich" then some .rich
  else none

inductive OutputFormat where
  | json
  | plain
  | rich
  deriving DecidableEq, Repr

def OutputFormat.name : OutputFormat → String
  | .json => "json"
  | .plain => "plain"
  | .rich => "rich"

structure Surroundings where
  noColor : Option String
  term : Option String
  columns : Option String
  lines : Option String
  terminal : Bool
  deriving DecidableEq, Repr

namespace Surroundings

/-- Whether colour is unwanted: `NO_COLOR` is set to anything, or the terminal is a dumb one. -/
def forbidColor (s : Surroundings) : Bool := s.noColor.isSome || s.term = some "dumb"

def isDumb (s : Surroundings) : Bool :=
  let term := String.ofList (Text.lowerAscii (s.term.getD "").toList)
  term = "dumb" || term = "unknown"

/-- The number that a variable holds. Digits that form no number have no value; anything else but
digits says nothing. -/
def size? (setting : Option String) : Except Fault (Option Nat) :=
  match setting with
  | none => .ok none
  | some s =>
    if s.isEmpty || !s.toList.all Text.isDigit then .ok none
    else match intIn? 10 s.toList with
      | some n => .ok (some n.toNat)
      | none => .error .badValue

/-- The width of a console, 80 if nothing is said about it. The height has to have a value too. -/
def width (s : Surroundings) : Except Fault Nat := do
  let columns ← size? s.columns
  let _ ← size? s.lines
  return columns.getD 80

end Surroundings

structure PrinterOptions where
  format : FormatChoice
  noColor : Bool
  quiet : Bool
  verbose : Bool
  deriving DecidableEq, Repr

structure Printer where
  format : OutputFormat
  noColor : Bool
  quiet : Bool
  verbose : Bool
  dumb : Bool
  width : Nat
  deriving DecidableEq, Repr

inductive Notice where
  | info
  | success
  | warning
  | error
  | suggestion
  | debug
  deriving DecidableEq, Repr

namespace Printer

/-- Without a choice the format is rich on a terminal with colour, and plain otherwise. -/
def ofOptions (s : Surroundings) (o : PrinterOptions) : Except Fault Printer := do
  let width ← s.width
  let noColor := o.noColor || s.forbidColor
  let format := match o.format with
    | .auto => if s.terminal && !noColor then OutputFormat.rich else .plain
    | .json => .json
    | .plain => .plain
    | .rich => .rich
  return ⟨format, noColor, o.quiet, o.verbose, s.isDumb, width⟩

/-! ## Standard output -/

def line (s : List Char) : List Char := s ++ ['\n']

def json (v : Value) : Except Fault (List Char) := (Formatter.jsonText v).map line

def palette (p : Printer) : Console.Palette :=
  if p.dumb then .none else if p.noColor then .weights else .colours

def table (p : Printer) (t : Table) : Except Fault (List Char) :=
  match p.format with
  | .json => json t.objects
  | .plain => .ok (t.tabbed.flatMap fun l => line l.toList)
  | .rich => Console.drawTable p.palette p.width t

/-! ## Standard error -/

def shows (p : Printer) : Notice → Bool
  | .info => !p.quiet
  | .success => !p.quiet
  | .suggestion => !p.quiet
  | .warning => true
  | .error => true
  | .debug => p.verbose

def plainNotice (kind : Notice) (message : String) : String :=
  match kind with
  | .info => message
  | .success => message
  | .warning => "Warning: " ++ message
  | .error => "Error: " ++ message
  | .suggestion => "→ " ++ message
  | .debug => "[debug] " ++ message

def styledNotice (kind : Notice) (message : String) : String :=
  match kind with
  | .info => message
  | .success => "[green]" ++ message ++ "[/green]"
  | .warning => "[yellow]Warning:[/yellow] " ++ message
  | .error => "[bold red]Error:[/bold red] " ++ message
  | .suggestion => "[dim]→ " ++ message ++ "[/dim]"
  | .debug => "[dim][debug] " ++ message ++ "[/dim]"

/-- Lines of a text on a console without styles. A console without cells shows nothing. -/
def consoleText (width : Nat) (s : List Char) : List Char :=
  if width = 0 then [] else (Console.wrap width .fold (Console.withoutControls s)).flatMap line

def notice (p : Printer) (kind : Notice) (message : String) : Except Fault (List Char) :=
  if !p.shows kind then .ok []
  else if p.noColor then .ok (line (plainNotice kind message).toList)
  else (Console.plainText (styledNotice kind message).toList).map (consoleText p.width)

def threshold (p : Printer) : Level :=
  if p.verbose then .debug else if p.quiet then .error else .warning

def levelWidth : Nat := 9

/-- The cells of a level and of a message in a console. A message gets all cells beside a level but at
least two, and where a console is too narrow for that, the wider column gives way. -/
def diagnosticWidths (width : Nat) (message : List Char) : Nat × Nat :=
  let widths := [min levelWidth width, max 2 (width - levelWidth)]
  if total widths ≤ width then (levelWidth, width - levelWidth)
  else
    let narrowed := Console.Drawing.narrow width (total widths + 1) widths
    (narrowed.headD 0, min ((narrowed.drop 1).headD 0) (Console.Drawing.textWidth message))

def levelText (column : Nat) (level : Level) : List Char :=
  let shown := if column ≤ 1 then [] else Console.crop (column - 1) .ellipsis level.name.toList
  Console.padRight column shown

def diagnostic (p : Printer) (level : Level) (message : String) : List Char :=
  if p.width = 0 then []
  else
    let message := Console.withoutControls message.toList
    let (column, room) := diagnosticWidths p.width message
    let lines := if room = 0 then [] else Console.wrap room .fold message
    let indent := List.replicate column ' '
    match lines with
    | [] => line (levelText column level)
    | l :: ls => line (levelText column level ++ l) ++ ls.flatMap fun l => line (indent ++ l)

def log (p : Printer) (ds : List Diagnostic) : List Char :=
  ds.flatMap fun d => if p.threshold.rank ≤ d.level.rank then p.diagnostic d.level d.message else []

end Printer
end ClientCompiler
