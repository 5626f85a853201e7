import ClientCompiler.Command.Run
import ClientCompiler.Web.Client

/-!
The command line. A run is computed on a picture of the files that it may name, and what it changed
is then carried out. Addresses cannot be reached from here, no formatting program is called, and the
accounts of users are not known.
-/

namespace ClientCompiler.CommandLine

def placeOf (workDir : List String) (p : FilePath) : List String :=
  p.names.foldl (fun place n => if n = ".." then place.dropLast else place ++ [n])
    (if p.isAbsolute then [] else workDir)

/-- A path and all paths above it, the highest first. -/
def ways (p : FilePath) : List FilePath :=
  (List.range p.names.length).map fun i => { p with names := p.names.take (i + 1) }

def picture (t : FileTree) (p : FilePath) : IO FileTree := do
  let base ← IO.currentDir
  let mut t := t
  for way in ways p do
    let found := base / way.text
    if ← found.isDir then t := t.put (placeOf t.workDir way) .directory
    else if ← found.pathExists then
      let octets ← IO.FS.readBinFile found
      t := t.put (placeOf t.workDir way) (.file octets.toList)
  return t

def pictures (t : FileTree) (ps : List FilePath) : IO FileTree := ps.foldlM picture t

def choiceOf : Command → Settings.Choice
  | .generate c => c
  | .inspectModels c => c
  | .inspectModules c => c

def namedBy (t : FileTree) (homes : Homes) (c : Settings.Choice) : List FilePath :=
  match Settings.resolve t.disk c with
  | .error _ => []
  | .ok (s, path) =>
    let templates := [s.templates.header, s.templates.body, s.templates.footer, s.templates.wrapper]
    let base := (path.map FilePath.parent).getD t.disk.workPath
    let files := templates.filterMap fun v => do
      let path ← Text.dropPrefix? "file:".toList (← v).toList
      return base.under (← (homes.expand (.ofString (String.ofList path))).toOption)
    (s.url.map FilePath.ofString).toList ++ files ++ [FilePath.ofString s.dir]

/-- The standard input, read only where the document comes from there. -/
def inputFor (t : FileTree) (c : Settings.Choice) : IO StandardInput := do
  match Settings.resolve t.disk c with
  | .error _ => return .text []
  | .ok (s, _) =>
    if DocumentSource.ofString (s.url.getD "") = .standardInput then
      try return .text (← (← IO.getStdin).readToEnd).toList
      catch e => return .unreadable (toString e)
    else return .text []

/-- What differs between two pictures: first the directories, in the order of their making. -/
def changes (before after : FileTree) : List (List String × FileNode) :=
  after.nodes.filter fun (place, n) => before.find? place != some n

/-- Carries out a change. A file is written beside its place and then renamed. -/
def carryOut (change : List String × FileNode) : IO Unit := do
  let path := "/" ++ "/".intercalate change.1
  match change.2 with
  | .directory => IO.FS.createDirAll path
  | .file octets =>
    let draft := path ++ ".tmp"
    IO.FS.writeBinFile draft ⟨octets.toArray⟩
    IO.FS.rename draft path
  | .device => return

def surroundings : IO Surroundings := do
  return ⟨← IO.getEnv "NO_COLOR", ← IO.getEnv "TERM", ← IO.getEnv "COLUMNS", ← IO.getEnv "LINES",
    ← (← IO.getStdout).isTty⟩

def world (command : Command) (options : PrinterOptions) : IO World := do
  let c := choiceOf command
  let workDir := (FilePath.ofString (← IO.currentDir).toString).names
  let settings := ["specgen.json", "pyproject.toml"] ++ c.file.toList ++ c.url.toList
  let t ← pictures (FileTree.empty workDir) (settings.map fun s => FilePath.ofString s)
  let homes : Homes := { Homes.none with given? := ← IO.getEnv "HOME" }
  let t ← pictures t (namedBy t homes c)
  let ask := Web.ask fun _ => .failed "no network"
  let chance ← IO.rand 0 stdRange.2
  let w : World := ⟨t, homes, ← inputFor t c, ask, .constant chance, .absent, ← surroundings⟩
  let written := (changes t (Command.run w options command).files).map fun (place, _) => ⟨1, place⟩
  return { w with files := ← pictures t written }

def usage : String :=
  "Usage: specgen [--version] [--json] [--no-color] [--quiet] [--verbose] COMMAND\n" ++
  "  generate [URL] [--dir DIR] [--config FILE]\n" ++
  "  inspect models [URL] [--config FILE]\n" ++
  "  inspect modules [URL] [--config FILE]"

end ClientCompiler.CommandLine

open ClientCompiler in
def main (args : List String) : IO UInt32 := do
  match Invocation.ofArguments args with
  | .version =>
    IO.println Command.versionText
    return 0
  | .help code =>
    IO.println CommandLine.usage
    return code.toUInt32
  | .misuse =>
    IO.eprintln CommandLine.usage
    return FaultClass.usage.exitCode.toUInt32
  | .run options command =>
    let w ← CommandLine.world command options
    let outcome := Command.run w options command
    (CommandLine.changes w.files outcome.files).forM CommandLine.carryOut
    IO.print (String.ofList outcome.out)
    IO.eprint (String.ofList outcome.err)
    return outcome.exitCode.toUInt32
