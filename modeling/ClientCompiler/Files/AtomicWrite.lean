import ClientCompiler.Files.Directory

/-!
Writing a file so that nobody sees half of it: the text goes into a draft beside the file, and the
draft is renamed. The run keeps the tree after every call, so that a statement about all moments is
a statement about the members of a list.
-/

namespace ClientCompiler

inductive WriteStep where
  | create
  | write
  | flush
  | sync
  | close
  | rename
  deriving DecidableEq, Repr

namespace WriteStep

def all : List WriteStep := [.create, .write, .flush, .sync, .close, .rename]

/-- Whether the draft is open and not yet closed when the call fails. -/
def leavesOpen : WriteStep → Bool
  | .write => true
  | .flush => true
  | .sync => true
  | _ => false

end WriteStep

structure WriteRun where
  trees : List FileTree
  result : Except Fault Unit

def WriteRun.last (r : WriteRun) (t : FileTree) : FileTree := r.trees.getLast?.getD t

structure Draft where
  path : FilePath
  target : FilePath
  octets : List UInt8
  deriving DecidableEq, Repr

namespace Draft

def putFile (t : FileTree) (p : FilePath) (octets : List UInt8) : Except Fault FileTree := do
  match ← t.entryPlace p with
  | none => throw (.system .isDirectory)
  | some place => return t.put place (.file octets)

def discard (d : Draft) (t : FileTree) : FileTree :=
  match t.entryPlace d.path with
  | .ok (some place) => t.erase place
  | _ => t

/-- Puts the draft in the place of the target, unless a directory is there. -/
def rename (d : Draft) (t : FileTree) : Except Fault FileTree := do
  match ← t.entryPlace d.target with
  | none => throw (.system .busy)
  | some place =>
    if t.find? place = some .directory then throw (.system .isDirectory)
    else return (d.discard t).put place (.file d.octets)

/-- The tree after a call that does its work. What is written reaches the file with the flush. -/
def perform (d : Draft) (t : FileTree) : WriteStep → Except Fault FileTree
  | .create => putFile t d.path []
  | .write => .ok t
  | .flush => putFile t d.path d.octets
  | .sync => .ok t
  | .close => .ok t
  | .rename => d.rename t

/-- What follows a failed call: an open draft is closed, and then the draft is removed. If closing
it fails, the draft stays. -/
def cleanUp (d : Draft) (fails : WriteStep → Bool) (step : WriteStep) (e : Fault) (t : FileTree) :
    WriteRun :=
  if step = .create then ⟨[], .error e⟩
  else if step.leavesOpen && fails .close then ⟨[], .error (.system .failed)⟩
  else ⟨[d.discard t], .error e⟩

/-- One call; `fails` tells which calls fail whatever they do. -/
def attempt (d : Draft) (fails : WriteStep → Bool) (step : WriteStep) (t : FileTree) :
    Except Fault FileTree :=
  if fails step then .error (.system .failed) else d.perform t step

def run (d : Draft) (fails : WriteStep → Bool) : List WriteStep → FileTree → WriteRun
  | [], _ => ⟨[], .ok ()⟩
  | step :: steps, t =>
    match d.attempt fails step t with
    | .ok t' =>
      let r := d.run fails steps t'
      ⟨t' :: r.trees, r.result⟩
    | .error e => d.cleanUp fails step e t

def nameFor (name tag : String) : String := "." ++ name ++ "." ++ tag ++ ".tmp"

def tag (i : Nat) : String :=
  let digits := Nat.toDigits 10 i
  String.ofList (List.replicate (8 - digits.length) '0' ++ digits)

def pathFor (target : FilePath) (i : Nat) : FilePath := target.parent.child (nameFor target.name (tag i))

def freshPath (t : FileTree) (target : FilePath) : Except Fault FilePath :=
  let taken (i : Nat) : Bool :=
    match t.entryPlace (pathFor target i) with
    | .ok (some place) => (t.find? place).isSome
    | _ => false
  match (List.range (t.nodes.length + 1)).find? fun i => !taken i with
  | some i => .ok (pathFor target i)
  | none => .error (.system .exists)

end Draft

/-- Writes a file, and makes its directory first. -/
def FileTree.atomicWrite (t : FileTree) (fails : WriteStep → Bool) (target : FilePath)
    (octets : List UInt8) : WriteRun :=
  match t.makeDirs target.parent with
  | (.error e, t') => ⟨[t'], .error e⟩
  | (.ok (), t') =>
    match Draft.freshPath t' target with
    | .error e => ⟨[t'], .error e⟩
    | .ok path =>
      let r := Draft.run ⟨path, target, octets⟩ fails WriteStep.all t'
      ⟨t' :: r.trees, r.result⟩

end ClientCompiler
