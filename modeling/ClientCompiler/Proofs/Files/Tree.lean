import ClientCompiler.Files.Directory
import ClientCompiler.Proofs.Failing
import ClientCompiler.Proofs.Files.Path
import ClientCompiler.Proofs.Returning

/-!
Places in a tree of files. A path that leads to a place leads there as long as the directories on
the way stay, and a directory that is there is made again without a change. Calls fail only with a
refusal of the path.
-/

namespace ClientCompiler

namespace FilePath

theorem eq_child {p : FilePath} {name : String} (h : p.names.getLast? = some name) :
    p = p.parent.child name := by
  obtain ⟨names, hnames⟩ := List.getLast?_eq_some_iff.mp h
  obtain ⟨slashes, _⟩ := p
  obtain rfl : _ = names ++ [name] := hnames
  simp [parent, child]

theorem parent_of_nil {p : FilePath} (h : p.names = []) : p.parent = p := by
  obtain ⟨slashes, _⟩ := p
  obtain rfl : _ = [] := h
  rfl

end FilePath

namespace FileTree

variable {t t' : FileTree} {p : FilePath} {place dir : List String} {name : String}

section Nodes

theorem lookup_putNode (n : FileNode) (place other : List String)
    (nodes : List (List String × FileNode)) :
    (putNode n place nodes).lookup other =
      if other = place then some n else nodes.lookup other := by
  induction nodes with
  | nil =>
    rw [putNode, List.lookup_cons]
    split <;> simp_all
  | cons node nodes ih =>
    obtain ⟨q, m⟩ := node
    rw [putNode]
    split
    · next hq =>
      subst hq
      rw [List.lookup_cons, List.lookup_cons]
      split <;> simp_all
    · next hq =>
      rw [List.lookup_cons, List.lookup_cons, ih]
      split
      · next hother =>
        rw [if_neg]
        rw [eq_of_beq hother]
        exact hq
      · rfl

theorem find?_put (hplace : place ≠ []) (n : FileNode) (other : List String) :
    (t.put place n).find? other = if other = place then some n else t.find? other := by
  unfold find? put
  cases other with
  | nil => rw [if_neg hplace.symm]; rfl
  | cons a as => exact lookup_putNode n place (a :: as) t.nodes

theorem lookup_erased (place other : List String) (nodes : List (List String × FileNode)) :
    (nodes.filter (·.1 ≠ place)).lookup other =
      if other = place then none else nodes.lookup other := by
  induction nodes with
  | nil => simp
  | cons node nodes ih =>
    obtain ⟨q, m⟩ := node
    rw [List.filter_cons, List.lookup_cons]
    split
    · next hq =>
      rw [List.lookup_cons, ih]
      split
      · next hother =>
        rw [if_neg]
        rw [eq_of_beq hother]
        simpa using hq
      · rfl
    · next hq =>
      have hq : q = place := by simpa using hq
      rw [ih, hq]
      split
      · rfl
      · next hother =>
        have hbeq : (other == place) = false := by simpa using hother
        rw [hbeq]

theorem find?_erase (hplace : place ≠ []) (other : List String) :
    (t.erase place).find? other = if other = place then none else t.find? other := by
  unfold find? erase
  cases other with
  | nil => rw [if_neg hplace.symm]; rfl
  | cons a as => exact lookup_erased place (a :: as) t.nodes

end Nodes

section Lengths

theorem octetCount_of_append {s a b : String} (h : s.toList = a.toList ++ b.toList) :
    octetCount s = octetCount a + octetCount b := by
  simp [octetCount, h, Text.encode]

theorem octetCount_append (a b : String) : octetCount (a ++ b) = octetCount a + octetCount b :=
  octetCount_of_append String.toList_append

theorem octetCount_replicate (n : Nat) (c : Char) :
    octetCount (String.ofList (List.replicate n c)) = n * (Text.encodeChar c).length := by
  simp [octetCount, Text.encode]

theorem length_le_octetCount (s : String) : s.toList.length ≤ octetCount s := by
  unfold octetCount Text.encode
  induction s.toList with
  | nil => exact Nat.le_refl 0
  | cons c cs ih =>
    have hchar : 0 < (Text.encodeChar c).length := by
      unfold Text.encodeChar
      dsimp only
      split_ifs <;> simp
    rw [List.flatMap_cons, List.length_append, List.length_cons]
    omega

theorem checkPath_eq_ok :
    checkPath p = .ok () ↔
      (∀ n ∈ p.names, '\x00' ∉ n.toList) ∧ octetCount p.text < maxPath := by
  unfold checkPath
  rw [← FilePath.holdsNull_eq_false]
  split
  · next hnull => simp [hnull]
  · next hnull =>
    have hnames : p.holdsNull = false := by simpa using hnull
    split
    · next hlong => simp only [reduceCtorEq, false_iff, not_and]; omega
    · next hshort => simp only [true_iff]; exact ⟨hnames, by omega⟩

theorem octetCount_text_of_nil (h : p.names = []) :
    octetCount p.text = max 1 (octetCount (String.ofList (List.replicate p.slashes '/'))) := by
  have hone : (Text.encodeChar '/').length = 1 := by decide
  have hcount : octetCount (String.ofList (List.replicate p.slashes '/')) = p.slashes := by
    rw [octetCount_replicate, hone, Nat.mul_one]
  cases hslashes : p.slashes with
  | zero => simp [FilePath.text, FilePath.isAbsolute, h, hslashes]; decide
  | succ k =>
    rw [hslashes] at hcount
    simp [FilePath.text, FilePath.isAbsolute, h, hslashes, hcount]

theorem checkPath_child (h : checkPath p = .ok ()) :
    checkPath (p.child name) = .ok () ↔
      '\x00' ∉ name.toList ∧ octetCount (p.child name).text < maxPath := by
  obtain ⟨hnull, -⟩ := checkPath_eq_ok.mp h
  rw [checkPath_eq_ok]
  refine and_congr_left fun _ => ⟨?_, ?_⟩
  · intro hnames
    exact hnames name (List.mem_append_right _ (List.mem_singleton.mpr rfl))
  · intro hname n hn
    rcases List.mem_append.mp hn with hn | hn
    · exact hnull n hn
    · rw [List.mem_singleton.mp hn]
      exact hname

/-- A name adds itself and at most a slash to a path. -/
theorem octetCount_text_child (p : FilePath) (name : String) :
    octetCount (p.child name).text ≤ octetCount p.text + 1 + octetCount name ∧
      octetCount p.text ≤ max 1 (octetCount (p.child name).text) := by
  by_cases hnames : p.names = []
  · have htext := FilePath.toList_text_child_of_nil hnames name
    have hcount : octetCount (p.child name).text =
        octetCount (String.ofList (List.replicate p.slashes '/')) + octetCount name :=
      octetCount_of_append (by rw [htext, String.toList_ofList])
    have hslashes := octetCount_text_of_nil hnames
    omega
  · have htext := FilePath.toList_text_child hnames name
    have hcount : octetCount (p.child name).text = octetCount (p.text ++ "/") + octetCount name :=
      octetCount_of_append (by rw [htext, String.toList_append]; simp)
    have hslash := octetCount_append p.text "/"
    have hone : octetCount "/" = 1 := by decide
    omega

theorem checkPath_of_child (h : checkPath (p.child name) = .ok ()) : checkPath p = .ok () := by
  obtain ⟨hnull, hlong⟩ := checkPath_eq_ok.mp h
  obtain ⟨-, hcount⟩ := octetCount_text_child p name
  have hmax : maxPath = 4096 := rfl
  refine checkPath_eq_ok.mpr ⟨?_, by omega⟩
  intro n hn
  exact hnull n (List.mem_append_left _ hn)

end Lengths

/-! ## Where paths lead -/

/-- There is a directory at the path, and it is in this place. -/
structure DirectoryAt (t : FileTree) (p : FilePath) (dir : List String) : Prop where
  located : t.locate p = .ok dir
  found : t.find? dir = some .directory

theorem walk_concat {start : List String} {names : List String} :
    t.walk start (names ++ [name]) = .ok place ↔
      ∃ dir, t.walk start names = .ok dir ∧ t.find? dir = some .directory ∧
        octetCount name ≤ maxName ∧
        place = if name = ".." then dir.dropLast else dir ++ [name] := by
  induction names generalizing start with
  | nil =>
    simp only [List.nil_append, walk]
    cases hstart : t.find? start with
    | none => simp [hstart]
    | some n =>
      cases n with
      | directory =>
        by_cases hname : octetCount name > maxName
        · have hlong : ¬octetCount name ≤ maxName := Nat.not_le.mpr hname
          simp only [hname, if_true, reduceCtorEq, Except.ok.injEq, false_iff, not_exists, not_and]
          exact fun _ _ _ hcount => absurd hcount hlong
        · have hshort : octetCount name ≤ maxName := Nat.not_lt.mp hname
          simp [hstart, hname, hshort, eq_comm]
      | _ => simp [hstart]
  | cons first names ih =>
    rw [List.cons_append, walk, walk]
    cases hstart : t.find? start with
    | none => simp
    | some n =>
      cases n with
      | directory =>
        by_cases hfirst : octetCount first > maxName
        · simp [hfirst]
        · simp only [hfirst, if_false, ih]
      | _ => simp

theorem locate_eq_ok :
    t.locate p = .ok place ↔ checkPath p = .ok () ∧
      t.walk (if p.isAbsolute then [] else t.workDir) p.names = .ok place := by
  unfold locate
  rw [bind_eq_ok]
  constructor
  · rintro ⟨_, hcheck, h⟩
    refine ⟨hcheck, ?_⟩
    split at h
    · next heq => rw [heq, pure_eq_ok.mp h]
    · cases h
  · rintro ⟨hcheck, hwalk⟩
    exact ⟨(), hcheck, by rw [hwalk]; rfl⟩

theorem nodeAt_of_locate (h : t.locate p = .ok place) {n : FileNode} (hn : t.find? place = some n) :
    p.holdsNull = false ∧ t.nodeAt p = .ok n := by
  obtain ⟨hcheck, hwalk⟩ := locate_eq_ok.mp h
  obtain ⟨hnull, hlong⟩ := checkPath_eq_ok.mp hcheck
  refine ⟨FilePath.holdsNull_eq_false.mpr hnull, ?_⟩
  unfold nodeAt
  rw [if_neg (Nat.not_le.mpr hlong), hwalk]
  simp only [Bind.bind, Except.bind, hn]
  rfl

theorem read_of_file {octets : List UInt8} (h : t.locate p = .ok place)
    (hn : t.find? place = some (.file octets)) : t.read p = .ok octets := by
  obtain ⟨hnull, hnode⟩ := nodeAt_of_locate h hn
  unfold read Disk.read disk
  simp only [hnull, hnode, Bind.bind, Except.bind, Bool.false_eq_true, if_false]
  rfl

theorem isFile_of_file {octets : List UInt8} (h : t.locate p = .ok place)
    (hn : t.find? place = some (.file octets)) : t.isFile p = .ok true := by
  obtain ⟨hnull, hnode⟩ := nodeAt_of_locate h hn
  unfold isFile Disk.isFile disk
  simp only [hnull, hnode, Bind.bind, Except.bind, Bool.false_eq_true, if_false]
  rfl

/-- A name of too many octets leads nowhere, and nothing is asked about it. -/
theorem nodeAt_of_long_name (hlong : maxName < octetCount name)
    (hdir : t.find? t.workDir = some .directory) : t.nodeAt ⟨0, [name]⟩ = .error .nameTooLong := by
  have hrelative : (⟨0, [name]⟩ : FilePath).isAbsolute = false := rfl
  have hwalk : t.walk t.workDir [name] = .error .nameTooLong := by
    rw [walk, hdir]
    exact if_pos hlong
  unfold nodeAt
  split
  · rfl
  · rw [hrelative, if_neg (by decide), hwalk]
    rfl

theorem isDirectory_iff : t.isDirectory p = true ↔ ∃ dir, t.DirectoryAt p dir := by
  unfold isDirectory
  constructor
  · intro h
    split at h
    · next dir hdir => exact ⟨dir, hdir, of_decide_eq_true h⟩
    · cases h
  · rintro ⟨dir, hlocated, hfound⟩
    rw [hlocated]
    simpa using hfound

theorem locate_child (hparent : checkPath p = .ok ()) (hname : name ≠ "..") :
    t.locate (p.child name) = .ok place ↔ checkPath (p.child name) = .ok () ∧
      octetCount name ≤ maxName ∧ ∃ dir, t.DirectoryAt p dir ∧ place = dir ++ [name] := by
  have hstart : (p.child name).isAbsolute = p.isAbsolute := rfl
  have hnames : (p.child name).names = p.names ++ [name] := rfl
  rw [locate_eq_ok, hstart, hnames, walk_concat]
  simp only [if_neg hname]
  constructor
  · rintro ⟨hcheck, dir, hwalk, hfound, hcount, rfl⟩
    exact ⟨hcheck, hcount, dir, ⟨locate_eq_ok.mpr ⟨hparent, hwalk⟩, hfound⟩, rfl⟩
  · rintro ⟨hcheck, hcount, dir, ⟨hlocated, hfound⟩, rfl⟩
    exact ⟨hcheck, dir, (locate_eq_ok.mp hlocated).2, hfound, hcount, rfl⟩

theorem entryPlace_eq_ok {entry : Option (List String)} :
    t.entryPlace p = .ok entry ↔ checkPath p = .ok () ∧ ∃ dir, t.DirectoryAt p.parent dir ∧
      match p.names.getLast? with
      | none => none = entry
      | some name =>
        if name = ".." then none = entry
        else octetCount name ≤ maxName ∧ some (dir ++ [name]) = entry := by
  unfold entryPlace
  simp only [bind_eq_ok]
  constructor
  · rintro ⟨_, hcheck, dir, hlocated, h⟩
    cases hfound : t.find? dir with
    | none => simp [hfound, throw_eq_ok] at h
    | some n =>
      cases n with
      | directory =>
        refine ⟨hcheck, dir, ⟨hlocated, hfound⟩, ?_⟩
        cases hlast : p.names.getLast? with
        | none => simpa [hfound, hlast, pure_eq_ok] using h
        | some name =>
          by_cases hdots : name = ".."
          · simpa [hfound, hlast, hdots, pure_eq_ok] using h
          · by_cases hcount : octetCount name > maxName
            · simp [hfound, hlast, hdots, hcount, throw_eq_ok] at h
            · simp only [hfound, hlast, hdots, hcount, if_false, pure_eq_ok] at h
              simpa [hdots, h] using hcount
      | _ => simp [hfound, throw_eq_ok] at h
  · rintro ⟨hcheck, dir, ⟨hlocated, hfound⟩, h⟩
    refine ⟨(), hcheck, dir, hlocated, ?_⟩
    cases hlast : p.names.getLast? with
    | none => simpa [hfound, hlast, pure_eq_ok] using h
    | some name =>
      by_cases hdots : name = ".."
      · simpa [hfound, hlast, hdots, pure_eq_ok] using h
      · simp only [hlast, hdots, if_false] at h
        simpa [hfound, hdots, Nat.not_lt.mpr h.1, pure_eq_ok] using h.2

theorem entryPlace_child :
    t.entryPlace (p.child name) = .ok (some place) ↔ checkPath (p.child name) = .ok () ∧
      name ≠ ".." ∧ octetCount name ≤ maxName ∧
      ∃ dir, t.DirectoryAt p dir ∧ place = dir ++ [name] := by
  have hlast : (p.child name).names.getLast? = some name := by simp [FilePath.child]
  rw [entryPlace_eq_ok, hlast, FilePath.parent_child]
  dsimp only
  constructor
  · rintro ⟨hcheck, dir, hdir, h⟩
    split at h
    · cases h
    · next hdots => exact ⟨hcheck, hdots, h.1, dir, hdir, (Option.some.inj h.2).symm⟩
  · rintro ⟨hcheck, hdots, hcount, dir, hdir, rfl⟩
    exact ⟨hcheck, dir, hdir, by rw [if_neg hdots]; exact ⟨hcount, rfl⟩⟩

theorem exists_child_of_entryPlace (h : t.entryPlace p = .ok (some place)) :
    ∃ (q : FilePath) (name : String), p = q.child name := by
  obtain ⟨-, _, -, h⟩ := entryPlace_eq_ok.mp h
  cases hlast : p.names.getLast? with
  | none => rw [hlast] at h; cases h
  | some name => exact ⟨p.parent, name, FilePath.eq_child hlast⟩

theorem DirectoryAt.checked (h : t.DirectoryAt p dir) : checkPath p = .ok () :=
  (locate_eq_ok.mp h.located).1

theorem DirectoryAt.unique {dir' : List String} (h : t.DirectoryAt p dir)
    (h' : t.DirectoryAt p dir') : dir = dir' :=
  Except.ok.inj (h.located.symm.trans h'.located)

theorem DirectoryAt.entryPlace_child (h : t.DirectoryAt p dir) :
    t.entryPlace (p.child name) = .ok (some place) ↔ checkPath (p.child name) = .ok () ∧
      name ≠ ".." ∧ octetCount name ≤ maxName ∧ place = dir ++ [name] := by
  rw [FileTree.entryPlace_child]
  constructor
  · rintro ⟨hcheck, hdots, hcount, dir', hdir, rfl⟩
    exact ⟨hcheck, hdots, hcount, by rw [h.unique hdir]⟩
  · rintro ⟨hcheck, hdots, hcount, rfl⟩
    exact ⟨hcheck, hdots, hcount, dir, h, rfl⟩

/-- A path leads to an entry of the directory above it, or not below that directory at all. -/
theorem DirectoryAt.locate_cases (h : t.DirectoryAt p.parent dir) (hp : t.locate p = .ok place) :
    place.length ≤ dir.length ∨ place = dir ++ [p.name] := by
  cases hlast : p.names.getLast? with
  | none =>
    have hsame := h.located
    rw [FilePath.parent_of_nil (List.getLast?_eq_none_iff.mp hlast), hp] at hsame
    rw [Except.ok.inj hsame]
    exact Or.inl (Nat.le_refl _)
  | some name =>
    have hchild := FilePath.eq_child hlast
    rw [hchild] at hp
    obtain ⟨hcheck, hwalk⟩ := locate_eq_ok.mp hp
    obtain ⟨dir', hwalk, -, -, hplace⟩ := walk_concat.mp hwalk
    have hdir : t.locate p.parent = .ok dir' :=
      locate_eq_ok.mpr ⟨checkPath_of_child hcheck, hwalk⟩
    obtain rfl : dir = dir' := Except.ok.inj (h.located.symm.trans hdir)
    split at hplace
    · rw [hplace, List.length_dropLast]
      exact Or.inl (Nat.sub_le _ _)
    · rw [hplace, FilePath.name, hlast]
      exact Or.inr rfl

theorem DirectoryAt.parent (h : t.DirectoryAt (p.child name) dir) :
    ∃ dir', t.DirectoryAt p dir' := by
  obtain ⟨hcheck, hwalk⟩ := locate_eq_ok.mp h.located
  obtain ⟨dir', hwalk, hfound, -⟩ := walk_concat.mp hwalk
  exact ⟨dir', locate_eq_ok.mpr ⟨checkPath_of_child hcheck, hwalk⟩, hfound⟩

/-! ## Calls that keep the directories -/

structure KeepsDirectories (t t' : FileTree) : Prop where
  workDir : t'.workDir = t.workDir
  directories : ∀ place, t.find? place = some .directory → t'.find? place = some .directory

theorem KeepsDirectories.trans {t'' : FileTree} (h : KeepsDirectories t t')
    (h' : KeepsDirectories t' t'') : KeepsDirectories t t'' :=
  ⟨h'.workDir.trans h.workDir,
    fun place hplace => h'.directories place (h.directories place hplace)⟩

theorem KeepsDirectories.walk (h : KeepsDirectories t t') {names : List String} :
    ∀ {start : List String}, t.walk start names = .ok place → t'.walk start names = .ok place := by
  induction names with
  | nil => exact id
  | cons name names ih =>
    intro start hwalk
    rw [FileTree.walk] at hwalk ⊢
    cases hstart : t.find? start with
    | none => rw [hstart] at hwalk; cases hwalk
    | some n =>
      rw [hstart] at hwalk
      cases n with
      | directory =>
        rw [h.directories start hstart]
        dsimp only at hwalk ⊢
        split at hwalk
        · cases hwalk
        · next hcount => rw [if_neg hcount]; exact ih hwalk
      | _ => cases hwalk

theorem KeepsDirectories.locate (h : KeepsDirectories t t') (hplace : t.locate p = .ok place) :
    t'.locate p = .ok place := by
  obtain ⟨hcheck, hwalk⟩ := locate_eq_ok.mp hplace
  exact locate_eq_ok.mpr ⟨hcheck, by rw [h.workDir]; exact h.walk hwalk⟩

theorem DirectoryAt.kept (hdir : t.DirectoryAt p dir) (h : KeepsDirectories t t') :
    t'.DirectoryAt p dir :=
  ⟨h.locate hdir.located, h.directories dir hdir.found⟩

theorem keepsDirectories_put {n : FileNode} (hplace : place ≠ [])
    (h : t.find? place ≠ some .directory ∨ n = .directory) :
    KeepsDirectories t (t.put place n) := by
  refine ⟨rfl, ?_⟩
  intro other hother
  rw [find?_put hplace]
  split
  · next heq =>
    rcases h with h | rfl
    · exact absurd (heq ▸ hother) h
    · rfl
  · exact hother

theorem locate_of_entryPlace (h : t.entryPlace p = .ok (some place))
    (hkeeps : KeepsDirectories t t') : t'.locate p = .ok place := by
  obtain ⟨q, name, rfl⟩ := exists_child_of_entryPlace h
  obtain ⟨hcheck, hdots, hcount, dir, hdir, rfl⟩ := entryPlace_child.mp h
  exact (locate_child (checkPath_of_child hcheck) hdots).mpr
    ⟨hcheck, hcount, dir, hdir.kept hkeeps, rfl⟩

theorem KeepsDirectories.entryPlace (h : KeepsDirectories t t')
    (hplace : t.entryPlace p = .ok (some place)) : t'.entryPlace p = .ok (some place) := by
  obtain ⟨q, name, rfl⟩ := exists_child_of_entryPlace hplace
  obtain ⟨hcheck, hdots, hcount, dir, hdir, rfl⟩ := entryPlace_child.mp hplace
  exact entryPlace_child.mpr ⟨hcheck, hdots, hcount, dir, hdir.kept h, rfl⟩

theorem ne_nil_of_entryPlace (h : t.entryPlace p = .ok (some place)) : place ≠ [] := by
  obtain ⟨q, name, rfl⟩ := exists_child_of_entryPlace h
  obtain ⟨-, -, -, dir, -, rfl⟩ := entryPlace_child.mp h
  simp

/-! ## Making directories -/

theorem makeDir_eq_ok :
    t.makeDir p = .ok t' ↔ ∃ place, t.entryPlace p = .ok (some place) ∧ t.find? place = none ∧
      t' = t.put place .directory := by
  unfold makeDir
  rw [bind_eq_ok]
  constructor
  · rintro ⟨entry, hentry, h⟩
    cases entry with
    | none => cases h
    | some place =>
      dsimp only at h
      split at h
      · cases h
      · next hfree =>
        exact ⟨place, hentry, by simpa using hfree, (pure_eq_ok.mp h).symm⟩
  · rintro ⟨place, hentry, hfree, rfl⟩
    exact ⟨some place, hentry, by simp [hfree, pure_eq_ok]⟩

theorem makeDir_of_directoryAt (h : t.DirectoryAt p dir) :
    t.makeDir p = .error (.system .exists) := by
  obtain ⟨hcheck, hwalk⟩ := locate_eq_ok.mp h.located
  cases hlast : p.names.getLast? with
  | none =>
    have hparent := FilePath.parent_of_nil (List.getLast?_eq_none_iff.mp hlast)
    have hentry : t.entryPlace p = .ok none :=
      entryPlace_eq_ok.mpr ⟨hcheck, dir, hparent.symm ▸ h, by rw [hlast]⟩
    rw [makeDir, hentry]
    rfl
  | some name =>
    have hp := FilePath.eq_child hlast
    generalize p.parent = q at hp
    subst hp
    obtain ⟨dir', hparent⟩ := h.parent
    by_cases hdots : name = ".."
    · have hentry : t.entryPlace (q.child name) = .ok none := by
        refine entryPlace_eq_ok.mpr ⟨hcheck, dir', ?_, ?_⟩
        · rw [FilePath.parent_child]
          exact hparent
        · rw [hlast]
          simp [hdots]
      rw [makeDir, hentry]
      rfl
    · obtain ⟨-, hcount, dir', hparent, rfl⟩ :=
        (locate_child (checkPath_of_child hcheck) hdots).mp h.located
      have hentry : t.entryPlace (q.child name) = .ok (some (dir' ++ [name])) :=
        entryPlace_child.mpr ⟨hcheck, hdots, hcount, dir', hparent, rfl⟩
      rw [makeDir, hentry]
      simp only [bind, Except.bind, h.found]
      rfl

theorem makeDirHere_of_directoryAt (h : t.DirectoryAt p dir) : t.makeDirHere p = (.ok (), t) := by
  have hdirectory : t.isDirectory p = true := isDirectory_iff.mpr ⟨dir, h⟩
  rw [makeDirHere, makeDir_of_directoryAt h]
  simp [hdirectory]

theorem makeDirHere_cases (h : t.makeDirHere p = (.ok (), t')) :
    ((∃ dir, t.DirectoryAt p dir) ∧ t' = t) ∨
      ∃ place, t.entryPlace p = .ok (some place) ∧ t.find? place = none ∧
        t' = t.put place .directory := by
  unfold makeDirHere at h
  cases hmake : t.makeDir p with
  | ok made =>
    rw [hmake] at h
    obtain rfl : made = t' := (Prod.mk.inj h).2
    exact Or.inr (makeDir_eq_ok.mp hmake)
  | error e =>
    rw [hmake] at h
    cases e with
    | system e =>
      dsimp only at h
      split at h
      · next hdirectory =>
        exact Or.inl ⟨isDirectory_iff.mp hdirectory, ((Prod.mk.inj h).2).symm⟩
      · cases h
    | _ => cases h

theorem makeDirHere_returned (h : t.makeDirHere p = (.ok (), t')) :
    ∃ dir, t'.DirectoryAt p dir := by
  rcases makeDirHere_cases h with ⟨hdir, rfl⟩ | ⟨place, hentry, hfree, rfl⟩
  · exact hdir
  · have hplace := ne_nil_of_entryPlace hentry
    have hkeeps := keepsDirectories_put hplace (Or.inr rfl) (t := t)
    exact ⟨place, locate_of_entryPlace hentry hkeeps, by rw [find?_put hplace, if_pos rfl]⟩

theorem makeDirs_of_nil (h : p.names = []) : t.makeDirs p = t.makeDirHere p := by
  obtain ⟨slashes, _⟩ := p
  obtain rfl : _ = [] := h
  rfl

theorem makeDirs_child (t : FileTree) (p : FilePath) (name : String) :
    t.makeDirs (p.child name) =
      match t.makeDir (p.child name) with
      | .error (.system .notFound) =>
        match t.makeDirs p with
        | (.ok (), t') => t'.makeDirHere (p.child name)
        | (.error e, t') => (.error e, t')
      | _ => t.makeDirHere (p.child name) := by
  have hslashes : (p.child name).slashes = p.slashes := rfl
  have hup : (p.child name).names.reverse = name :: p.names.reverse := by simp [FilePath.child]
  have hself : (⟨p.slashes, (name :: p.names.reverse).reverse⟩ : FilePath) = p.child name := by
    simp [FilePath.child]
  rw [makeDirs, hslashes, hup, makeDirsUp, hself]
  rfl

theorem nil_or_child (p : FilePath) :
    p.names = [] ∨ ∃ (q : FilePath) (name : String), p = q.child name := by
  cases hlast : p.names.getLast? with
  | none => exact Or.inl (List.getLast?_eq_none_iff.mp hlast)
  | some name => exact Or.inr ⟨p.parent, name, FilePath.eq_child hlast⟩

theorem makeDirs_of_directoryAt (h : t.DirectoryAt p dir) : t.makeDirs p = (.ok (), t) := by
  rcases nil_or_child p with hnil | ⟨q, name, rfl⟩
  · rw [makeDirs_of_nil hnil, makeDirHere_of_directoryAt h]
  · rw [makeDirs_child, makeDir_of_directoryAt h, ← makeDirHere_of_directoryAt h]

theorem makeDirs_child_of_directoryAt (h : t.DirectoryAt p dir) (name : String) :
    t.makeDirs (p.child name) = t.makeDirHere (p.child name) := by
  rw [makeDirs_child]
  split
  · rw [makeDirs_of_directoryAt h]
  · rfl

theorem makeDirs_returned (h : t.makeDirs p = (.ok (), t')) : ∃ dir, t'.DirectoryAt p dir := by
  rcases nil_or_child p with hnil | ⟨q, name, rfl⟩
  · rw [makeDirs_of_nil hnil] at h
    exact makeDirHere_returned h
  · rw [makeDirs_child] at h
    split at h
    · split at h
      · exact makeDirHere_returned h
      · cases h
    · exact makeDirHere_returned h

theorem makeDirs_of_free (hentry : t.entryPlace p = .ok (some place))
    (hfree : t.find? place = none) : t.makeDirs p = (.ok (), t.put place .directory) := by
  have hmake : t.makeDir p = .ok (t.put place .directory) :=
    makeDir_eq_ok.mpr ⟨place, hentry, hfree, rfl⟩
  obtain ⟨q, name, rfl⟩ := exists_child_of_entryPlace hentry
  rw [makeDirs_child, hmake]
  dsimp only
  rw [makeDirHere, hmake]

/-! ## Refusals -/

end FileTree

/-- What a call on files fails with: the system refuses it, or no call takes its path. -/
def Fault.isRefusal : Fault → Bool
  | .system _ => true
  | .badValue => true
  | _ => false

def OnlyRefuses {α : Type} (x : Except Fault α) : Prop := ∀ e, x = .error e → e.isRefusal = true

namespace OnlyRefuses

variable {α β : Type}

theorem ok (a : α) : OnlyRefuses (.ok a) := FailsOnly.ok a

theorem refusal {e : Fault} (h : e.isRefusal = true) : OnlyRefuses (.error e : Except Fault α) :=
  FailsOnly.error h

theorem bind {x : Except Fault α} {f : α → Except Fault β} (hx : OnlyRefuses x)
    (hf : ∀ a, OnlyRefuses (f a)) : OnlyRefuses (x >>= f) := FailsOnly.bind hx hf

theorem map {x : Except Fault α} (hx : OnlyRefuses x) (f : α → β) : OnlyRefuses (x.map f) :=
  FailsOnly.map hx f

end OnlyRefuses

namespace FileTree

variable (t : FileTree) (p : FilePath)

theorem onlyRefuses_checkPath : OnlyRefuses (checkPath p) := by
  unfold checkPath
  split
  · exact .refusal rfl
  · split
    · exact .refusal rfl
    · exact .ok ()

theorem onlyRefuses_locate : OnlyRefuses (t.locate p) := by
  refine (onlyRefuses_checkPath p).bind fun _ => ?_
  split
  · exact .ok _
  · exact .refusal rfl

theorem onlyRefuses_entryPlace : OnlyRefuses (t.entryPlace p) := by
  refine (onlyRefuses_checkPath p).bind fun _ => ?_
  refine (onlyRefuses_locate t _).bind fun dir => ?_
  split
  · exact .refusal rfl
  · split
    · exact .ok _
    · split
      · exact .ok _
      · split
        · exact .refusal rfl
        · exact .ok _
  · exact .refusal rfl

theorem onlyRefuses_makeDir : OnlyRefuses (t.makeDir p) := by
  refine (onlyRefuses_entryPlace t p).bind fun entry => ?_
  split
  · exact .refusal rfl
  · split
    · exact .refusal rfl
    · exact .ok _

theorem onlyRefuses_makeDirHere : OnlyRefuses (t.makeDirHere p).1 := by
  unfold makeDirHere
  split
  · exact .ok ()
  · split
    · exact .ok ()
    · exact .refusal rfl
  · next e _ h => exact .refusal (onlyRefuses_makeDir t p e h)

theorem onlyRefuses_makeDirsUp (slashes : Nat) (up : List String) :
    ∀ t : FileTree, OnlyRefuses (makeDirsUp slashes up t).1 := by
  induction up with
  | nil => exact fun t => onlyRefuses_makeDirHere t _
  | cons n up ih =>
    intro t
    unfold makeDirsUp
    dsimp only
    split
    · have hup := ih t
      split
      · exact onlyRefuses_makeDirHere _ _
      · next e t' h => rw [h] at hup; exact hup
    · exact onlyRefuses_makeDirHere t _

theorem onlyRefuses_makeDirs : OnlyRefuses (t.makeDirs p).1 :=
  onlyRefuses_makeDirsUp p.slashes p.names.reverse t

end FileTree
end ClientCompiler
