import ClientCompiler.Command.Inspection
import ClientCompiler.Command.Invocation
import ClientCompiler.Document.Modules
import ClientCompiler.Document.Source
import ClientCompiler.Emission.Emit

/-!
Runs of the commands: what they print, the exit code, and the files they leave. All settings and
templates are read before the document, and the document is compiled before anything is written.
-/

namespace ClientCompiler

structure World where
  files : FileTree
  homes : Homes
  input : StandardInput
  ask : HttpRequest → HttpReply
  chance : Template.Chance
  prettier : Prettier
  surroundings : Surroundings

structure RunOutcome where
  exitCode : Nat
  out : List Char
  err : List Char
  files : FileTree

namespace Command

def programName : String := "specgen"

def version : String := "0.3.0"

def versionText : String := s!"{programName} v{version}"

def unforeseenExitCode : Nat := 1

/-- What is said about a fault, and the exit code. A fault that cannot be printed as it should is
unforeseen. -/
def report (p : Printer) (e : Fault) : List Char × Nat :=
  let unforeseen : List Char × Nat :=
    (match p.notice .error "Unexpected error: ..." with
      | .ok s => s
      | .error _ => [], unforeseenExitCode)
  match e with
  | .interrupted => ("\nCancelled.\n".toList, interruptedExitCode)
  | e =>
    match e.class?, p.notice .error e.message with
    | some c, .ok s => (s, c.exitCode)
    | _, _ => unforeseen

def failed (p : Printer) (err : List Char) (e : Fault) (t : FileTree) : RunOutcome :=
  ⟨(report p e).2, [], err ++ (report p e).1, t⟩

def notices (p : Printer) : List (Notice × String) → List Char × Option Fault
  | [] => ([], none)
  | (kind, message) :: rest =>
    match p.notice kind message with
    | .error e => ([], some e)
    | .ok s => (s ++ (notices p rest).1, (notices p rest).2)

def finished (p : Printer) (err : List Char) (last : List (Notice × String)) (t : FileTree) : RunOutcome :=
  match notices p last with
  | (s, none) => ⟨0, [], err ++ s, t⟩
  | (s, some e) => failed p (err ++ s) e t

def compileAt (w : World) (url : String) : Traced Client := do
  let document ← Traced.lift (DocumentSource.load w.files.disk w.input w.ask (.ofString url))
  let _ ← Traced.lift (dialectVersion document)
  compile TypeTable.typeScript document

/-- Where the document is. Settings that were resolved always say it. -/
def placeOf (s : Settings) : String := s.url.getD ""

def prepare (w : World) (c : Settings.Choice) : Except Fault (Settings × Slots String) :=
  Settings.prepare w.files.disk w.homes Render.Packaged.slots c

def build (w : World) (s : Settings) (templates : Slots String) :
    FileAction (Client × List FilePath) := do
  let client ← FileAction.lift (compileAt w (placeOf s))
  let paths ← emit (Render.renderer w.chance) ⟨w.prettier.formatter, Formatter.json⟩ templates
    (FilePath.ofString s.dir) client
  return (client, paths)

def writtenNotices (s : Settings) (client : Client) (paths : List FilePath) : List (Notice × String) :=
  paths.map (fun p => (.success, s!"{p.text} was generated.")) ++
    [(.suggestion,
      s!"{client.models.length} models, {client.modules.length} modules written to {s.dir}")]

def runGenerate (w : World) (p : Printer) (c : Settings.Choice) : RunOutcome :=
  match prepare w c with
  | .error e => failed p [] e w.files
  | .ok (s, templates) =>
    match p.notice .info s!"{versionText} start fetching {placeOf s}..." with
    | .error e => failed p [] e w.files
    | .ok start =>
      let (outcome, files) := build w s templates w.files
      let err := start ++ p.log outcome.log
      match outcome.result with
      | .error e => failed p err e files
      | .ok (client, paths) => finished p err (writtenNotices s client paths) files

def runInspect (w : World) (p : Printer) (c : Settings.Choice) (table? : Client → Option Table)
    (nothing : String) : RunOutcome :=
  match Settings.resolve w.files.disk c with
  | .error e => failed p [] e w.files
  | .ok (s, _) =>
    let compiled := compileAt w (placeOf s)
    let err := p.log compiled.log
    match compiled.result with
    | .error e => failed p err e w.files
    | .ok client =>
      match table? client with
      | none => finished p err [(.info, nothing)] w.files
      | some t =>
        match p.table t with
        | .ok out => ⟨0, out, err, w.files⟩
        | .error e => failed p err e w.files

def modelTable? (c : Client) : Option Table :=
  if c.models.isEmpty then none else some (Inspection.modelTable c.models)

def moduleTable? (c : Client) : Option Table :=
  if c.modules.isEmpty then none else some (Inspection.moduleTable c.modules)

/-- Runs a command. A run that cannot print ends unforeseen and says nothing. -/
def run (w : World) (options : PrinterOptions) (command : Command) : RunOutcome :=
  match Printer.ofOptions w.surroundings options with
  | .error _ => ⟨unforeseenExitCode, [], [], w.files⟩
  | .ok p =>
    match command with
    | .generate c => runGenerate w p c
    | .inspectModels c => runInspect w p c modelTable? "No definitions in this document."
    | .inspectModules c => runInspect w p c moduleTable? "No tagged operations in this document."

end Command
end ClientCompiler
