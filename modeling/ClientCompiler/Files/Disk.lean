import ClientCompiler.Fault
import ClientCompiler.Files.Path
import ClientCompiler.Text.Utf8

/-!
Files as their readers see them. What is at a path and which octets a file holds is for the system
to say, and it may refuse to say either.
-/

namespace ClientCompiler

inductive FileKind where
  | file
  | directory
  | other
  deriving DecidableEq, Repr

/-- What a system answers when it is asked about a path. Relative paths start at `workPath`. -/
structure Disk where
  workPath : FilePath
  kind : FilePath → Except SystemFault FileKind
  octets : FilePath → Except SystemFault (List UInt8)

namespace Disk

/-- Whether there is a file at a path. Some refusals say that there is none; the others are faults. -/
def isFile (d : Disk) (p : FilePath) : Except Fault Bool :=
  if p.holdsNull then .ok false
  else match d.kind p with
    | .ok k => .ok (k = FileKind.file)
    | .error f => if f.saysAbsent then .ok false else .error (.system f)

def read (d : Disk) (p : FilePath) : Except Fault (List UInt8) :=
  if p.holdsNull then .error .badValue else (d.octets p).mapError .system

/-- The text of a file in UTF-8, with all line ends made line feeds. -/
def readText (d : Disk) (p : FilePath) : Except Fault (List Char) := do
  match Text.decode? (← d.read p) with
  | some s => return Text.normalizeNewlines s
  | none => throw .undecodable

end Disk
end ClientCompiler
