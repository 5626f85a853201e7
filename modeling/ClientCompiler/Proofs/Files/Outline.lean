import ClientCompiler.Files.AtomicWrite
import ClientCompiler.Proofs.Returning

/-!
The outline of a tree: what there is at each place, with nothing in the files. Every call does to the
outline what it does to the tree, so that how calls end, and where they put files, does not depend on
what is in the files.
-/

namespace ClientCompiler

def FileNode.outline : FileNode → FileNode
  | .file _ => .file []
  | n => n

namespace FileTree

def outline (t : FileTree) : FileTree := { t with nodes := t.nodes.map fun x => (x.1, x.2.outline) }

variable {t : FileTree}

theorem find?_outline (t : FileTree) (place : List String) :
    t.outline.find? place = (t.find? place).map FileNode.outline := by
  unfold find?
  split
  · rfl
  · show (t.nodes.map fun x => (x.1, x.2.outline)).lookup place = _
    induction t.nodes with
    | nil => rfl
    | cons x nodes ih =>
      obtain ⟨p, n⟩ := x
      rw [List.map_cons, List.lookup_cons, List.lookup_cons, ih]
      cases place == p <;> rfl

theorem outline_put (t : FileTree) (place : List String) (n : FileNode) :
    (t.put place n).outline = t.outline.put place n.outline := by
  unfold put outline
  congr 1
  dsimp only
  induction t.nodes with
  | nil => rfl
  | cons x nodes ih =>
    obtain ⟨p, m⟩ := x
    simp only [putNode, List.map_cons]
    split
    · rw [List.map_cons]
    · rw [List.map_cons, ih]

theorem outline_erase (t : FileTree) (place : List String) :
    (t.erase place).outline = t.outline.erase place := by
  unfold erase outline
  congr 1
  dsimp only
  rw [List.filter_map]
  rfl

theorem walk_outline (place names : List String) :
    t.outline.walk place names = t.walk place names := by
  induction names generalizing place with
  | nil => rfl
  | cons n names ih =>
    rw [walk, walk, find?_outline]
    cases t.find? place with
    | none => rfl
    | some m => cases m <;> simp only [Option.map_some, FileNode.outline, ih]

theorem locate_outline (p : FilePath) : t.outline.locate p = t.locate p := by
  have hwalk := walk_outline (t := t) (if p.isAbsolute then [] else t.workDir) p.names
  unfold locate
  rw [show t.outline.workDir = t.workDir from rfl, hwalk]

theorem isDirectory_outline (p : FilePath) : t.outline.isDirectory p = t.isDirectory p := by
  unfold isDirectory
  rw [locate_outline]
  cases t.locate p with
  | error e => rfl
  | ok place =>
    dsimp only
    rw [find?_outline]
    cases t.find? place with
    | none => rfl
    | some n => cases n <;> rfl

theorem entryPlace_outline (p : FilePath) : t.outline.entryPlace p = t.entryPlace p := by
  unfold entryPlace
  rw [locate_outline]
  cases checkPath p with
  | error e => rfl
  | ok _ =>
    cases t.locate p.parent with
    | error e => rfl
    | ok dir =>
      simp only [Bind.bind, Except.bind, find?_outline]
      cases t.find? dir with
      | none => rfl
      | some n => cases n <;> rfl

theorem makeDir_outline (p : FilePath) : t.outline.makeDir p = (t.makeDir p).map outline := by
  unfold makeDir
  rw [entryPlace_outline]
  cases t.entryPlace p with
  | error e => rfl
  | ok found =>
    cases found with
    | none => rfl
    | some place =>
      simp only [Bind.bind, Except.bind, find?_outline, Option.isSome_map]
      split
      · rfl
      · show Except.ok (t.outline.put place .directory) = _
        rw [show FileNode.directory = FileNode.directory.outline from rfl, ← outline_put]
        rfl

theorem makeDirHere_outline (p : FilePath) :
    t.outline.makeDirHere p = ((t.makeDirHere p).1, (t.makeDirHere p).2.outline) := by
  unfold makeDirHere
  rw [makeDir_outline, isDirectory_outline]
  cases t.makeDir p with
  | ok u => rfl
  | error e =>
    cases e with
    | system e => cases t.isDirectory p <;> rfl
    | _ => rfl

theorem makeDirsUp_outline (slashes : Nat) (up : List String) (t : FileTree) :
    makeDirsUp slashes up t.outline =
      ((makeDirsUp slashes up t).1, (makeDirsUp slashes up t).2.outline) := by
  induction up generalizing t with
  | nil => exact makeDirHere_outline _
  | cons n up ih =>
    rw [makeDirsUp, makeDirsUp]
    simp only [makeDir_outline, makeDirHere_outline, ih]
    cases t.makeDir ⟨slashes, (n :: up).reverse⟩ with
    | ok u => rfl
    | error e =>
      cases e with
      | system e =>
        cases e with
        | notFound =>
          obtain ⟨r, u⟩ := makeDirsUp slashes up t
          cases r with
          | ok _ => exact makeDirHere_outline _
          | error e => rfl
        | _ => rfl
      | _ => rfl

theorem makeDirs_outline (p : FilePath) :
    t.outline.makeDirs p = ((t.makeDirs p).1, (t.makeDirs p).2.outline) :=
  makeDirsUp_outline p.slashes p.names.reverse t

end FileTree

def WriteRun.outline (r : WriteRun) : WriteRun := { r with trees := r.trees.map FileTree.outline }

theorem WriteRun.last_outline (r : WriteRun) (t : FileTree) :
    r.outline.last t.outline = (r.last t).outline := by
  unfold last outline
  rw [List.getLast?_map, Option.getD_map]

namespace Draft

def outline (d : Draft) : Draft := { d with octets := [] }

variable {t : FileTree} (d : Draft)

theorem freshPath_outline (t : FileTree) (target : FilePath) :
    freshPath t.outline target = freshPath t target := by
  have hlength : t.outline.nodes.length = t.nodes.length := List.length_map _
  unfold freshPath
  simp only [FileTree.entryPlace_outline, FileTree.find?_outline, Option.isSome_map, hlength]

theorem putFile_outline (p : FilePath) (octets : List UInt8) :
    putFile t.outline p [] = (putFile t p octets).map FileTree.outline := by
  unfold putFile
  rw [FileTree.entryPlace_outline]
  cases t.entryPlace p with
  | error e => rfl
  | ok found =>
    cases found with
    | none => rfl
    | some place =>
      show Except.ok (t.outline.put place (.file [])) = Except.ok (t.put place _).outline
      rw [FileTree.outline_put]
      rfl

theorem discard_outline (t : FileTree) : d.outline.discard t.outline = (d.discard t).outline := by
  have hpath : d.outline.path = d.path := rfl
  unfold discard
  rw [FileTree.entryPlace_outline, hpath]
  cases t.entryPlace d.path with
  | error e => rfl
  | ok found =>
    cases found with
    | none => rfl
    | some place => exact (FileTree.outline_erase t place).symm

theorem rename_outline (t : FileTree) :
    d.outline.rename t.outline = (d.rename t).map FileTree.outline := by
  unfold rename
  rw [FileTree.entryPlace_outline, discard_outline]
  show (t.entryPlace d.target >>= _) = _
  cases t.entryPlace d.target with
  | error e => rfl
  | ok found =>
    cases found with
    | none => rfl
    | some place =>
      simp only [Bind.bind, Except.bind, FileTree.find?_outline]
      have hdirectory : (t.find? place).map FileNode.outline = some .directory ↔
          t.find? place = some .directory := by
        cases t.find? place with
        | none => simp
        | some n => cases n <;> simp [FileNode.outline]
      simp only [hdirectory]
      split
      · rfl
      · show Except.ok (((d.discard t).outline).put place (.file [])) = _
        rw [show FileNode.file [] = (FileNode.file d.octets).outline from rfl,
          ← FileTree.outline_put]
        rfl

theorem perform_outline (t : FileTree) (step : WriteStep) :
    d.outline.perform t.outline step = (d.perform t step).map FileTree.outline := by
  cases step with
  | create => exact putFile_outline d.path []
  | flush => exact putFile_outline d.path d.octets
  | rename => exact rename_outline d t
  | _ => rfl

theorem cleanUp_outline (fails : WriteStep → Bool) (step : WriteStep) (e : Fault) (t : FileTree) :
    d.outline.cleanUp fails step e t.outline = (d.cleanUp fails step e t).outline := by
  unfold cleanUp
  rw [discard_outline]
  split
  · rfl
  · split <;> rfl

theorem run_outline (fails : WriteStep → Bool) (steps : List WriteStep) (t : FileTree) :
    d.outline.run fails steps t.outline = (d.run fails steps t).outline := by
  induction steps generalizing t with
  | nil => rfl
  | cons step steps ih =>
    have hattempt : d.outline.attempt fails step t.outline =
        (d.attempt fails step t).map FileTree.outline := by
      unfold attempt
      rw [perform_outline]
      split <;> rfl
    rw [run, run, hattempt]
    cases d.attempt fails step t with
    | error e => exact cleanUp_outline d fails step e t
    | ok u =>
      show WriteRun.mk (u.outline :: (d.outline.run fails steps u.outline).trees)
        (d.outline.run fails steps u.outline).result = _
      rw [ih]
      rfl

end Draft

/-- A write does to the outline what a write of nothing does. -/
theorem FileTree.atomicWrite_outline (t : FileTree) (fails : WriteStep → Bool) (target : FilePath)
    (octets : List UInt8) :
    t.outline.atomicWrite fails target [] = (t.atomicWrite fails target octets).outline := by
  unfold atomicWrite
  rw [makeDirs_outline]
  obtain ⟨r, u⟩ := t.makeDirs target.parent
  cases r with
  | error e => rfl
  | ok _ =>
    dsimp only
    rw [Draft.freshPath_outline]
    cases Draft.freshPath u target with
    | error e => rfl
    | ok path =>
      have hrun := Draft.run_outline ⟨path, target, octets⟩ fails WriteStep.all u
      dsimp only
      rw [show (⟨path, target, []⟩ : Draft) = (⟨path, target, octets⟩ : Draft).outline from rfl, hrun]
      rfl

section Alike

variable {t u : FileTree} (h : t.outline = u.outline)

include h

theorem FileTree.makeDirs_alike (p : FilePath) :
    (t.makeDirs p).1 = (u.makeDirs p).1 ∧
      (t.makeDirs p).2.outline = (u.makeDirs p).2.outline := by
  rw [← Prod.mk.injEq, ← makeDirs_outline, ← makeDirs_outline, h]

/-- How a write ends, and which files it leaves, does not depend on what is written. -/
theorem FileTree.atomicWrite_alike (fails : WriteStep → Bool) (target : FilePath)
    (octets octets' : List UInt8) :
    (t.atomicWrite fails target octets).result = (u.atomicWrite fails target octets').result ∧
      ((t.atomicWrite fails target octets).last t).outline =
        ((u.atomicWrite fails target octets').last u).outline := by
  have hrun : (t.atomicWrite fails target octets).outline =
      (u.atomicWrite fails target octets').outline := by
    rw [← atomicWrite_outline, ← atomicWrite_outline, h]
  have hresult := congrArg WriteRun.result hrun
  refine ⟨hresult, ?_⟩
  rw [← WriteRun.last_outline, ← WriteRun.last_outline, hrun, h]

end Alike

end ClientCompiler
