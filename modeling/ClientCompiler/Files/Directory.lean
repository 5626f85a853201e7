import ClientCompiler.Files.Tree

/-!
Making directories, with those above them where they are missing.
-/

namespace ClientCompiler.FileTree

/-- The place of an entry in its directory, which has to be there; none if a path names a directory
without the entry for it. -/
def entryPlace (t : FileTree) (p : FilePath) : Except Fault (Option (List String)) := do
  checkPath p
  let dir ← t.locate p.parent
  match t.find? dir with
  | none => throw (.system .notFound)
  | some .directory =>
    match p.names.getLast? with
    | none => return none
    | some name =>
      if name = ".." then return none
      else if octetCount name > maxName then throw (.system .nameTooLong)
      else return some (dir ++ [name])
  | some _ => throw (.system .notDirectory)

def makeDir (t : FileTree) (p : FilePath) : Except Fault FileTree := do
  match ← t.entryPlace p with
  | none => throw (.system .exists)
  | some place =>
    if (t.find? place).isSome then throw (.system .exists)
    else return t.put place .directory

def makeDirHere (t : FileTree) (p : FilePath) : Except Fault Unit × FileTree :=
  match t.makeDir p with
  | .ok t' => (.ok (), t')
  | .error (.system e) => if t.isDirectory p then (.ok (), t) else (.error (.system e), t)
  | .error e => (.error e, t)

/-- Makes the directory with some names, the last one first, and those above it as needed. What was
made before a fault stays. -/
def makeDirsUp (slashes : Nat) : List String → FileTree → Except Fault Unit × FileTree
  | [], t => t.makeDirHere ⟨slashes, []⟩
  | n :: up, t =>
    let p : FilePath := ⟨slashes, (n :: up).reverse⟩
    match t.makeDir p with
    | .error (.system .notFound) =>
      match makeDirsUp slashes up t with
      | (.ok (), t') => t'.makeDirHere p
      | (.error e, t') => (.error e, t')
    | _ => t.makeDirHere p

def makeDirs (t : FileTree) (p : FilePath) : Except Fault Unit × FileTree :=
  makeDirsUp p.slashes p.names.reverse t

end ClientCompiler.FileTree
