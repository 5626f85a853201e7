import ClientCompiler.Files.Disk

/-!
A tree of files and directories, which answers as a system does. A path is followed name by name, so
that every directory on the way has to be there.
-/

namespace ClientCompiler

inductive FileNode where
  | file (octets : List UInt8)
  | directory
  | device
  deriving DecidableEq, Repr

/-- What there is at each place, as the names from the root; relative paths start at `workDir`. The
root is always a directory. -/
structure FileTree where
  workDir : List String
  nodes : List (List String × FileNode)
  deriving Repr

namespace FileTree

def find? (t : FileTree) (place : List String) : Option FileNode :=
  if place.isEmpty then some .directory else t.nodes.lookup place

def putNode (n : FileNode) (place : List String) :
    List (List String × FileNode) → List (List String × FileNode)
  | [] => [(place, n)]
  | (p, m) :: rest => if p = place then (place, n) :: rest else (p, m) :: putNode n place rest

/-- Puts a file or a directory in a place, where nothing is asked about the way there. -/
def put (t : FileTree) (place : List String) (n : FileNode) : FileTree :=
  { t with nodes := putNode n place t.nodes }

def erase (t : FileTree) (place : List String) : FileTree :=
  { t with nodes := t.nodes.filter (·.1 ≠ place) }

def empty (workDir : List String) : FileTree :=
  let ways := (List.range workDir.length).map fun i => (workDir.take (i + 1), FileNode.directory)
  ⟨workDir, ways ++ [(["dev"], .directory), (["dev", "null"], .device)]⟩

def maxName : Nat := 255

/-- The octets that a path may not reach. -/
def maxPath : Nat := 4096

def octetCount (s : String) : Nat := (Text.encode s.toList).length

def walk (t : FileTree) (place : List String) : List String → Except SystemFault (List String)
  | [] => .ok place
  | n :: ns =>
    match t.find? place with
    | none => .error .notFound
    | some .directory =>
      if octetCount n > maxName then .error .nameTooLong
      else walk t (if n = ".." then place.dropLast else place ++ [n]) ns
    | some _ => .error .notDirectory

def checkPath (p : FilePath) : Except Fault Unit :=
  if p.holdsNull then .error .badValue
  else if octetCount p.text ≥ maxPath then .error (.system .nameTooLong)
  else .ok ()

def locate (t : FileTree) (p : FilePath) : Except Fault (List String) := do
  checkPath p
  match t.walk (if p.isAbsolute then [] else t.workDir) p.names with
  | .ok place => return place
  | .error e => throw (.system e)

/-- Whether there is a directory at a path. A way that breaks off leads to none. -/
def isDirectory (t : FileTree) (p : FilePath) : Bool :=
  match t.locate p with
  | .ok place => t.find? place = some .directory
  | .error _ => false

def nodeAt (t : FileTree) (p : FilePath) : Except SystemFault FileNode :=
  if octetCount p.text ≥ maxPath then .error .nameTooLong
  else do
    let place ← t.walk (if p.isAbsolute then [] else t.workDir) p.names
    match t.find? place with
    | some n => return n
    | none => throw .notFound

def disk (t : FileTree) : Disk where
  workPath := ⟨1, t.workDir⟩
  kind p := do
    match ← t.nodeAt p with
    | .file _ => return .file
    | .directory => return .directory
    | .device => return .other
  octets p := do
    match ← t.nodeAt p with
    | .file octets => return octets
    | .directory => throw .isDirectory
    | .device => return []

def isFile (t : FileTree) (p : FilePath) : Except Fault Bool := t.disk.isFile p

def read (t : FileTree) (p : FilePath) : Except Fault (List UInt8) := t.disk.read p

def readText (t : FileTree) (p : FilePath) : Except Fault (List Char) := t.disk.readText p

end FileTree
end ClientCompiler
