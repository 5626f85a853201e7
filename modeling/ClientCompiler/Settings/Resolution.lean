import ClientCompiler.Files.Disk
import ClientCompiler.Files.Home
import ClientCompiler.Json.Reader
import ClientCompiler.Settings.Basic
import ClientCompiler.Toml.Reader

/-!
The settings of a run. The command line comes before the settings file, and that before the
defaults. Without a file on the command line, `specgen.json` is the settings file, or else
`pyproject.toml` if it has a table for this program.
-/

namespace ClientCompiler.Settings

def fault {α : Type} (cause : ConfigCause) : Except Fault α := .error (.config cause)

def toolTable (d : Disk) (p : FilePath) : Except Fault (Option Value) := do
  let octets ← match d.read p with
    | .error (.system _) => fault (.malformedTable p.text)
    | r => r
  match Text.decode? octets with
  | none => throw .undecodable
  | some text =>
    match Toml.parse text with
    | .error .malformed => fault (.malformedTable p.text)
    | .error .integerTooLong => throw .badValue
    | .ok table =>
      match (Value.field "tool" table).getD (.map []) with
      | .map tools =>
        match Value.field "specgen" tools with
        | some (.map found) => return some (.map found)
        | _ => return none
      | _ => throw .noMember

def find (d : Disk) (base : FilePath) : Except Fault (Option FilePath) := do
  let first := base.child "specgen.json"
  let second := base.child "pyproject.toml"
  if ← d.isFile first then return some first
  else if ← d.isFile second then
    return if (← toolTable d second).isSome then some second else none
  else return none

def readJson (d : Disk) (p : FilePath) : Except Fault Value := do
  let text ← match d.readText p with
    | .error (.system e) => fault (.malformed p.text (e.message p.text))
    | r => r
  match Json.parse text with
  | .ok v => return v
  | .error .integerTooLong => throw .badValue
  | .error (.malformed cause left) => fault (.malformed p.text (Json.malformedMessage text cause left))

/-- The settings in a file: a table of TOML if its name ends in `.toml`, otherwise JSON. -/
def load (d : Disk) (p : FilePath) : Except Fault Settings := do
  if !(← d.isFile p) then fault (.notFound p.text)
  else
    let v ← if p.suffix = ".toml" then (do
        match ← toolTable d p with
        | some v => return v
        | none => fault (.noTable p.text) : Except Fault Value)
      else readJson d p
    if !v.isMap then fault (.notObject p.text)
    else match Validation.settings v with
      | .ok s => return s
      | .error issues => fault (.badFields p.text issues)

structure Choice where
  url : Option String
  dir : Option String
  file : Option String
  deriving DecidableEq, Repr

/-- The settings of a run, and the settings file if there is one. An empty text names no file. -/
def resolve (d : Disk) (c : Choice) : Except Fault (Settings × Option FilePath) := do
  let path ← match c.file.filter (· ≠ "") with
    | some f => .ok (some (FilePath.ofString f))
    | none => find d d.workPath
  let s ← match path with
    | some p => load d p
    | none => .ok default
  let s := { s with url := c.url <|> s.url, dir := c.dir.getD s.dir }
  if (s.url.getD "").isEmpty then throw .urlMissing
  return (s, path)

/-! ## Templates -/

/-- The text of a template; after `file:` comes the path of a file that holds it. -/
def templateText (d : Disk) (homes : Homes) (base : Option FilePath) (value : String) :
    Except Fault String :=
  match Text.dropPrefix? "file:".toList value.toList with
  | none => .ok value
  | some path => do
    let p ← homes.expand (.ofString (String.ofList path))
    let p := match base with
      | some b => b.under p
      | none => p
    match d.readText p with
    | .ok s => return String.ofList s
    | .error (.system e) => fault (.templateUnreadable p.text (e.message p.text))
    | .error e => throw e

def templateTexts (d : Disk) (homes : Homes) (base : Option FilePath) (packaged : Slots String)
    (given : Slots (Option String)) : Except Fault (Slots String) := do
  let read ← given.traverse fun _ value => match value with
    | some v => (templateText d homes base v).map some
    | none => .ok none
  return read.map₂ (fun found text => found.getD text) packaged

def prepare (d : Disk) (homes : Homes) (packaged : Slots String) (c : Choice) :
    Except Fault (Settings × Slots String) := do
  let (s, path) ← resolve d c
  let texts ← templateTexts d homes (path.map FilePath.parent) packaged s.templates
  return (s, texts)

end ClientCompiler.Settings
