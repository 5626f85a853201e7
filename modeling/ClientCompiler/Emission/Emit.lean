import ClientCompiler.Emission.FileName
import ClientCompiler.Emission.Formatter
import ClientCompiler.Files.Action
import ClientCompiler.Render.Artifact

/-!
Writing a client to a directory: the types, one file for each module, the manifest and the source
document. A text that its formatter rejects is logged and written as it is.
-/

namespace ClientCompiler

structure Formatters where
  code : Formatter
  json : Formatter

inductive ArtifactKind where
  | code
  | json
  deriving DecidableEq, Repr

def Formatters.get (f : Formatters) : ArtifactKind → Formatter
  | .code => f.code
  | .json => f.json

structure Artifact where
  path : FilePath
  kind : ArtifactKind
  text : Except Fault (List Char)

namespace Emission

def typesPath (out : FilePath) : FilePath := out.child "types.ts"

def modulesDir (out : FilePath) : FilePath := out.child "modules"

def modulePath (out : FilePath) (m : ApiModule) : FilePath :=
  (modulesDir out).child (FileName.ofModule m.name ++ ".ts")

def manifestPath (out : FilePath) : FilePath := out.child "manifest.json"

def docsPath (out : FilePath) : FilePath := out.child "docs.json"

def typesArtifact (chance : Template.Chance) (out : FilePath) (c : Client) : Artifact :=
  ⟨typesPath out, .code, Render.typesText chance c.models⟩

def moduleArtifact (out : FilePath) (render : ApiModule → Except Fault (List Char)) (m : ApiModule) :
    Artifact :=
  ⟨modulePath out m, .code, render m⟩

def manifestArtifact (out : FilePath) (c : Client) : Artifact :=
  ⟨manifestPath out, .json, Formatter.jsonText c.manifest⟩

def docsArtifact (out : FilePath) (c : Client) : Artifact :=
  ⟨docsPath out, .json, Formatter.jsonText (.map c.source)⟩

/-- The text that is written for an artifact: the formatted one unless it was rejected. -/
def formatted (f : Formatter) (path : FilePath) (s : List Char) : Traced (List Char) :=
  match f s with
  | ⟨.error (.format reason), log⟩ => ⟨.ok s, log ++ [.formatRejected path.text reason]⟩
  | r => r

def writeArtifact (f : Formatters) (a : Artifact) : FileAction FilePath := do
  let s ← FileAction.lift (Traced.lift a.text)
  let s ← FileAction.lift (formatted (f.get a.kind) a.path s)
  FileAction.write a.path s
  return a.path

end Emission

def emit (r : Renderer) (f : Formatters) (texts : Slots String) (out : FilePath) (c : Client) :
    FileAction (List FilePath) := do
  FileAction.makeDirs out
  let render ← FileAction.lift (Traced.lift (r.modules texts))
  let types ← Emission.writeArtifact f (Emission.typesArtifact r.chance out c)
  FileAction.makeDirs (Emission.modulesDir out)
  let modules ← FileAction.each (fun m => Emission.writeArtifact f (Emission.moduleArtifact out render m))
    c.modules
  let manifest ← Emission.writeArtifact f (Emission.manifestArtifact out c)
  let docs ← Emission.writeArtifact f (Emission.docsArtifact out c)
  return types :: modules ++ [manifest, docs]

end ClientCompiler
