import ClientCompiler.Files.Action
import ClientCompiler.Proofs.Files.Tree

/-!
A file is written by way of a draft. When the write returns, the file holds what was written and
nothing else has changed; it returns wherever the draft fits and no directory is in the way.
-/

namespace ClientCompiler

open FileTree

/-- A call that fails only by what it does. -/
abbrev WriteStep.sound : WriteStep → Bool := fun _ => false

theorem WriteRun.last_cons (t t' : FileTree) (r : WriteRun) :
    WriteRun.last ⟨t' :: r.trees, r.result⟩ t = r.last t' := by
  simp [WriteRun.last, List.getLast?_cons]

namespace Draft

variable {d : Draft} {t t' : FileTree} {p : FilePath} {place dir : List String} {name : String}

/-! ## The calls of a write -/

theorem putFile_eq_ok {octets : List UInt8} :
    putFile t p octets = .ok t' ↔
      ∃ place, t.entryPlace p = .ok (some place) ∧ t' = t.put place (.file octets) := by
  unfold putFile
  rw [bind_eq_ok]
  constructor
  · rintro ⟨entry, hentry, h⟩
    cases entry with
    | none => exact (throw_eq_ok.mp h).elim
    | some place => exact ⟨place, hentry, (pure_eq_ok.mp h).symm⟩
  · rintro ⟨place, hentry, rfl⟩
    exact ⟨some place, hentry, pure_eq_ok.mpr rfl⟩

theorem rename_eq_ok :
    d.rename t = .ok t' ↔ ∃ place, t.entryPlace d.target = .ok (some place) ∧
      t.find? place ≠ some .directory ∧ t' = (d.discard t).put place (.file d.octets) := by
  unfold rename
  rw [bind_eq_ok]
  constructor
  · rintro ⟨entry, hentry, h⟩
    cases entry with
    | none => exact (throw_eq_ok.mp h).elim
    | some place =>
      dsimp only at h
      split at h
      · exact (throw_eq_ok.mp h).elim
      · next hplace => exact ⟨place, hentry, hplace, (pure_eq_ok.mp h).symm⟩
  · rintro ⟨place, hentry, hplace, rfl⟩
    exact ⟨some place, hentry, by simp only [if_neg hplace, pure_eq_ok]⟩

/-- A write of which no call fails of itself: the draft is made, filled and renamed. -/
def store (d : Draft) (t : FileTree) : Except Fault FileTree := do
  let made ← putFile t d.path []
  let filled ← putFile made d.path d.octets
  d.rename filled

theorem result_cleanUp (step : WriteStep) (e : Fault) :
    (d.cleanUp WriteStep.sound step e t).result = .error e := by
  unfold cleanUp
  split
  · rfl
  · simp

theorem result_run_cons (step : WriteStep) (steps : List WriteStep) :
    (d.run WriteStep.sound (step :: steps) t).result =
      d.perform t step >>= fun t' => (d.run WriteStep.sound steps t').result := by
  rw [run, attempt, if_neg (by simp)]
  cases d.perform t step with
  | ok t' => rfl
  | error e => exact result_cleanUp step e

theorem last_run_cons (step : WriteStep) (steps : List WriteStep)
    (h : d.perform t step = .ok t') (before : FileTree) :
    (d.run WriteStep.sound (step :: steps) t).last before =
      (d.run WriteStep.sound steps t').last t' := by
  rw [run, attempt, if_neg (by simp), h]
  exact WriteRun.last_cons before t' _

theorem result_run_all : (d.run WriteStep.sound WriteStep.all t).result =
    (d.store t).map fun _ => () := by
  simp only [WriteStep.all, result_run_cons, perform, store]
  cases putFile t d.path [] with
  | error e => rfl
  | ok made =>
    simp only [bind, Except.bind]
    cases putFile made d.path d.octets with
    | error e => rfl
    | ok filled =>
      dsimp only
      cases d.rename filled <;> rfl

theorem last_run_all (h : d.store t = .ok t') (before : FileTree) :
    (d.run WriteStep.sound WriteStep.all t).last before = t' := by
  unfold store at h
  rw [bind_eq_ok] at h
  obtain ⟨made, hmade, h⟩ := h
  rw [bind_eq_ok] at h
  obtain ⟨filled, hfilled, hrenamed⟩ := h
  unfold WriteStep.all
  rw [last_run_cons .create _ hmade, last_run_cons .write _ rfl, last_run_cons .flush _ hfilled,
    last_run_cons .sync _ rfl, last_run_cons .close _ rfl, last_run_cons .rename _ hrenamed]
  rfl

end Draft

/-! ## Writing into a directory -/

/-- A file was put in a place where no directory was, and nothing else has changed. -/
structure Wrote (t t' : FileTree) (place : List String) (octets : List UInt8) : Prop where
  workDir : t'.workDir = t.workDir
  free : t.find? place ≠ some .directory
  nodes : ∀ other, t'.find? other = if other = place then some (.file octets) else t.find? other

theorem Wrote.keepsDirectories {t t' : FileTree} {place : List String} {octets : List UInt8}
    (h : Wrote t t' place octets) : KeepsDirectories t t' := by
  refine ⟨h.workDir, ?_⟩
  intro other hother
  rw [h.nodes other, if_neg, hother]
  rintro rfl
  exact h.free hother

/-- A file may have this name: its draft may, too. -/
structure Draft.Fits (name : String) : Prop where
  dots : name ≠ ".."
  nulls : '\x00' ∉ name.toList
  short : octetCount (Draft.nameFor name (Draft.tag 0)) ≤ maxName

namespace Draft

variable {t t' : FileTree} {p : FilePath} {dir : List String} {name : String}

def storeAt (t : FileTree) (target : FilePath) (octets : List UInt8) : Except Fault FileTree := do
  let path ← freshPath t target
  store ⟨path, target, octets⟩ t

theorem pathFor_child (p : FilePath) (name : String) (i : Nat) :
    pathFor (p.child name) i = p.child (nameFor name (tag i)) := by
  simp [pathFor]

theorem freshPath_returned {target path : FilePath} (h : freshPath t target = .ok path) :
    ∃ i, path = pathFor target i ∧
      ∀ place, t.entryPlace path = .ok (some place) → t.find? place = none := by
  unfold freshPath at h
  dsimp only at h
  split at h
  · next i hi =>
    obtain rfl := Except.ok.inj h
    refine ⟨i, rfl, ?_⟩
    intro place hplace
    have hfree := List.find?_some hi
    simpa [hplace] using hfree
  · cases h

theorem freshPath_of_free {target : FilePath} {place : List String}
    (hentry : t.entryPlace (pathFor target 0) = .ok (some place)) (hfree : t.find? place = none) :
    freshPath t target = .ok (pathFor target 0) := by
  unfold freshPath
  dsimp only
  rw [List.range_succ_eq_map, List.find?_cons_of_pos]
  rw [hentry]
  simp [hfree]

theorem octetCount_nameFor (name tag : String) :
    octetCount (nameFor name tag) = octetCount name + octetCount tag + 6 := by
  have hdot : octetCount "." = 1 := by decide
  have hend : octetCount ".tmp" = 4 := by decide
  simp only [nameFor, octetCount_append]
  omega

theorem octetCount_tag_zero : octetCount (tag 0) = 8 := by decide

theorem octetCount_tag (i : Nat) : 8 ≤ octetCount (tag i) := by
  have hlength : 8 ≤ (tag i).toList.length := by
    simp only [tag, String.toList_ofList, List.length_append, List.length_replicate]
    omega
  exact Nat.le_trans hlength (length_le_octetCount (tag i))

theorem getLast?_nameFor (name tag : String) : (nameFor name tag).toList.getLast? = some 'p' := by
  have hend : ".tmp".toList = ".tm".toList ++ ['p'] := by decide
  rw [nameFor, String.toList_append, hend, ← List.append_assoc, List.getLast?_concat]

theorem nameFor_ne_dots (name tag : String) : nameFor name tag ≠ ".." := by
  intro h
  have hlast := getLast?_nameFor name tag
  rw [h] at hlast
  exact absurd hlast (by decide)

theorem nameFor_ne (name tag : String) : nameFor name tag ≠ name := by
  intro h
  have hcount := octetCount_nameFor name tag
  rw [h] at hcount
  omega

theorem Fits.octetCount_le (h : Fits name) : octetCount name ≤ maxName := by
  have := h.short
  rw [octetCount_nameFor] at this
  omega

theorem Fits.draft_nulls (h : Fits name) : '\x00' ∉ (nameFor name (tag 0)).toList := by
  have hdot : '\x00' ∉ ".".toList := by decide
  have hend : '\x00' ∉ ".tmp".toList := by decide
  have htag : '\x00' ∉ (tag 0).toList := by decide
  simp only [nameFor, String.toList_append, List.mem_append, not_or]
  exact ⟨⟨⟨⟨hdot, h.nulls⟩, hdot⟩, htag⟩, hend⟩

variable {octets : List UInt8}

theorem keepsDirectories_putFile {place : List String} (hplace : place ≠ [])
    (hfree : t.find? place ≠ some .directory) (octets : List UInt8) :
    KeepsDirectories t (t.put place (.file octets)) :=
  keepsDirectories_put hplace (Or.inl hfree)

theorem keepsDirectories_drafted {place : List String} (hplace : place ≠ [])
    (hnew : t.find? place = none) (octets : List UInt8) :
    KeepsDirectories t (t.put place (.file [])) ∧
      KeepsDirectories t ((t.put place (.file [])).put place (.file octets)) := by
  have hmakes := keepsDirectories_putFile hplace (by simp [hnew]) [] (t := t)
  refine ⟨hmakes, hmakes.trans (keepsDirectories_putFile hplace ?_ octets)⟩
  simp [find?_put hplace]

/-- The draft is gone after the renaming, and was nowhere before. -/
theorem store_returned (hdir : t.DirectoryAt p dir) {draft : String}
    (hnew : ∀ place, t.entryPlace (p.child draft) = .ok (some place) → t.find? place = none)
    (h : store ⟨p.child draft, p.child name, octets⟩ t = .ok t') :
    Wrote t t' (dir ++ [name]) octets := by
  unfold store at h
  simp only [bind_eq_ok, putFile_eq_ok, rename_eq_ok] at h
  obtain ⟨made, ⟨draftPlace, hmade, rfl⟩, filled, ⟨draftPlace', hfilled, rfl⟩,
    place, htarget, hfree, rfl⟩ := h
  have hdraft := hnew draftPlace hmade
  have hne := ne_nil_of_entryPlace hmade
  obtain ⟨hmakes, hkeeps⟩ := keepsDirectories_drafted hne hdraft octets
  obtain ⟨hcheck, hdots, hcount, rfl⟩ := hdir.entryPlace_child.mp hmade
  obtain ⟨-, -, -, rfl⟩ := (hdir.kept hmakes).entryPlace_child.mp hfilled
  obtain ⟨-, -, -, rfl⟩ := (hdir.kept hkeeps).entryPlace_child.mp htarget
  have hdiscard := (hdir.kept hkeeps).entryPlace_child.mpr ⟨hcheck, hdots, hcount, rfl⟩
  -- The draft's own place is the one that could differ, and nothing was there before.
  refine ⟨?_, fun hplace => hfree (hkeeps.directories _ hplace), ?_⟩
  · rw [discard, hdiscard]
    rfl
  · intro other
    rw [discard, hdiscard]
    simp only [find?_put (ne_nil_of_entryPlace htarget), find?_erase hne, find?_put hne]
    split
    · rfl
    · split
      · next heq => rw [heq, hdraft]
      · rfl

theorem storeAt_returned (hdir : t.DirectoryAt p dir)
    (h : storeAt t (p.child name) octets = .ok t') :
    Wrote t t' (dir ++ [name]) octets ∧ Fits name ∧ checkPath (p.child name) = .ok () := by
  unfold storeAt at h
  rw [bind_eq_ok] at h
  obtain ⟨path, hpath, hstore⟩ := h
  obtain ⟨i, rfl, hnew⟩ := freshPath_returned hpath
  rw [pathFor_child] at hnew hstore
  refine ⟨store_returned hdir hnew hstore, ?_⟩
  unfold store at hstore
  simp only [bind_eq_ok, putFile_eq_ok, rename_eq_ok] at hstore
  obtain ⟨_, ⟨_, hmade, _⟩, _, _, _, htarget, _⟩ := hstore
  obtain ⟨-, -, hcount, -⟩ := entryPlace_child.mp hmade
  obtain ⟨hcheck, hdots, -, -⟩ := entryPlace_child.mp htarget
  have hnulls := ((checkPath_child (checkPath_of_child hcheck)).mp hcheck).1
  have htag := octetCount_tag i
  refine ⟨⟨hdots, hnulls, ?_⟩, hcheck⟩
  rw [octetCount_nameFor] at hcount ⊢
  rw [octetCount_tag_zero]
  omega

/-- There is room for one more name of any length in a path. -/
def HasRoom (p : FilePath) : Prop := octetCount p.text + 1 + maxName < maxPath

theorem checkPath_of_room (hp : checkPath p = .ok ()) (hroom : HasRoom p)
    (hnulls : '\x00' ∉ name.toList) (hcount : octetCount name ≤ maxName) :
    checkPath (p.child name) = .ok () := by
  obtain ⟨hmost, -⟩ := octetCount_text_child p name
  unfold HasRoom at hroom
  exact (checkPath_child hp).mpr ⟨hnulls, by omega⟩

/-- A write returns where the draft fits, nothing has its name, and no directory is in the way. -/
theorem storeAt_of_fits (hdir : t.DirectoryAt p dir) (hroom : HasRoom p) (hname : Fits name)
    (hdraft : t.find? (dir ++ [nameFor name (tag 0)]) = none)
    (hfree : t.find? (dir ++ [name]) ≠ some .directory) (octets : List UInt8) :
    ∃ t', storeAt t (p.child name) octets = .ok t' := by
  have hdraftPath := checkPath_of_room hdir.checked hroom hname.draft_nulls hname.short
  have htargetPath := checkPath_of_room hdir.checked hroom hname.nulls hname.octetCount_le
  have hne : dir ++ [nameFor name (tag 0)] ≠ [] := by simp
  have hentry {u : FileTree} (hu : u.DirectoryAt p dir) :
      u.entryPlace (p.child (nameFor name (tag 0))) = .ok (some (dir ++ [nameFor name (tag 0)])) :=
    hu.entryPlace_child.mpr ⟨hdraftPath, nameFor_ne_dots name (tag 0), hname.short, rfl⟩
  have hfresh : freshPath t (p.child name) = .ok (p.child (nameFor name (tag 0))) := by
    rw [← pathFor_child]
    refine freshPath_of_free ?_ hdraft
    rw [pathFor_child]
    exact hentry hdir
  obtain ⟨hmakes, hkeeps⟩ := keepsDirectories_drafted hne hdraft octets
  have htarget := (hdir.kept hkeeps).entryPlace_child.mpr
    ⟨htargetPath, hname.dots, hname.octetCount_le, rfl⟩
  have hother : dir ++ [name] ≠ dir ++ [nameFor name (tag 0)] := by
    intro heq
    exact nameFor_ne name (tag 0) (List.singleton_inj.mp (List.append_cancel_left heq)).symm
  unfold storeAt store
  simp only [bind_eq_ok, putFile_eq_ok, rename_eq_ok]
  refine ⟨_, _, hfresh, _, ⟨_, hentry hdir, rfl⟩, _, ⟨_, hentry (hdir.kept hmakes), rfl⟩,
    _, htarget, ?_, rfl⟩
  simpa [find?_put hne, hother] using hfree

end Draft

/-! ## The action -/

namespace FileAction

variable {t t' : FileTree} {p : FilePath} {dir : List String} {name : String}

theorem atomicWrite_of_directoryAt (hdir : t.DirectoryAt p dir) (name : String)
    (octets : List UInt8) :
    (t.atomicWrite WriteStep.sound (p.child name) octets).result =
        (Draft.storeAt t (p.child name) octets).map (fun _ => ()) ∧
      ∀ t', Draft.storeAt t (p.child name) octets = .ok t' →
        (t.atomicWrite WriteStep.sound (p.child name) octets).last t = t' := by
  unfold FileTree.atomicWrite Draft.storeAt
  rw [FilePath.parent_child, makeDirs_of_directoryAt hdir]
  dsimp only
  cases Draft.freshPath t (p.child name) with
  | error e => exact ⟨rfl, nofun⟩
  | ok path =>
    refine ⟨Draft.result_run_all, ?_⟩
    intro t' hstore
    dsimp only
    rw [WriteRun.last_cons]
    exact Draft.last_run_all hstore _

theorem write_eq_returned (hdir : t.DirectoryAt p dir) {s : List Char} {log : List Diagnostic} :
    write (p.child name) s t = (⟨.ok (), log⟩, t') ↔
      log = [] ∧ Draft.storeAt t (p.child name) (Text.encode s) = .ok t' := by
  obtain ⟨hresult, hlast⟩ := atomicWrite_of_directoryAt hdir name (Text.encode s)
  unfold write
  dsimp only
  rw [Prod.mk.injEq, Traced.mk.injEq, hresult, map_eq_ok]
  constructor
  · rintro ⟨⟨⟨u, hu, -⟩, rfl⟩, rfl⟩
    exact ⟨rfl, by rw [hlast u hu]; exact hu⟩
  · rintro ⟨rfl, hstore⟩
    exact ⟨⟨⟨t', hstore, rfl⟩, rfl⟩, hlast t' hstore⟩

theorem onlyRefuses_store (d : Draft) (t : FileTree) : OnlyRefuses (d.store t) := by
  have hput (t : FileTree) (octets : List UInt8) : OnlyRefuses (Draft.putFile t d.path octets) := by
    refine (onlyRefuses_entryPlace t d.path).bind fun entry => ?_
    split
    · exact .refusal rfl
    · exact .ok _
  refine (hput t []).bind fun made => (hput made d.octets).bind fun filled => ?_
  refine (onlyRefuses_entryPlace filled d.target).bind fun entry => ?_
  split
  · exact .refusal rfl
  · split
    · exact .refusal rfl
    · exact .ok _

theorem onlyRefuses_write (p : FilePath) (s : List Char) (t : FileTree) :
    OnlyRefuses (write p s t).1.result := by
  have hdirs := onlyRefuses_makeDirs t p.parent
  unfold write FileTree.atomicWrite
  dsimp only
  split
  · next e u h => rw [h] at hdirs; exact hdirs
  · next u h =>
    split
    · next e hpath =>
      unfold Draft.freshPath at hpath
      dsimp only at hpath
      split at hpath
      · cases hpath
      · exact .refusal (by rw [← Except.error.inj hpath]; rfl)
    · dsimp only
      rw [Draft.result_run_all]
      exact (onlyRefuses_store _ u).map _

end FileAction
end ClientCompiler
