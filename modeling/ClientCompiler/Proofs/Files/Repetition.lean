import ClientCompiler.Proofs.Emission.Contents

/-!
Calls on files that were made once can be made again. A write meets the same drafts as before, since
none of them stays, and its target is a file.
-/

namespace ClientCompiler

open FileTree FileAction

variable {t t' u v : FileTree} {p : FilePath} {place dir : List String} {name : String}

namespace FileTree

theorem putNode_of_fresh {nodes : List (List String × FileNode)}
    (h : ∀ node ∈ nodes, node.1 ≠ place) (n : FileNode) :
    putNode n place nodes = nodes ++ [(place, n)] := by
  induction nodes with
  | nil => rfl
  | cons node nodes ih =>
    obtain ⟨hnode, hnodes⟩ := List.forall_mem_cons.mp h
    rw [putNode, if_neg hnode, ih hnodes, List.cons_append]

theorem putNode_putNode (n m : FileNode) (place : List String)
    (nodes : List (List String × FileNode)) :
    putNode m place (putNode n place nodes) = putNode m place nodes := by
  induction nodes with
  | nil => simp [putNode]
  | cons node nodes ih =>
    obtain ⟨q, _⟩ := node
    by_cases hq : q = place
    · simp [putNode, hq]
    · simp [putNode, hq, ih]

theorem put_put (t : FileTree) (place : List String) (n m : FileNode) :
    (t.put place n).put place m = t.put place m := by
  simp only [put, putNode_putNode]

theorem erase_put (hplace : place ≠ []) (hnew : t.find? place = none) (n : FileNode) :
    (t.put place n).erase place = t := by
  have hlookup : t.nodes.lookup place = none := by
    have hempty : place.isEmpty = false := by simpa using hplace
    simpa [find?, hempty] using hnew
  have hfresh : ∀ node ∈ t.nodes, node.1 ≠ place := by
    intro node hnode heq
    have hne := List.lookup_eq_none_iff.mp hlookup node hnode
    simp [heq] at hne
  have hfilter : t.nodes.filter (·.1 ≠ place) = t.nodes :=
    List.filter_eq_self.mpr fun node hnode => by simpa using hfresh node hnode
  simp only [put, erase, putNode_of_fresh hfresh, List.filter_append, hfilter]
  simp

theorem length_putNode (n : FileNode) (place : List String)
    (nodes : List (List String × FileNode)) :
    nodes.length ≤ (putNode n place nodes).length := by
  induction nodes with
  | nil => simp [putNode]
  | cons node nodes ih =>
    obtain ⟨q, m⟩ := node
    rw [putNode]
    split
    · simp
    · simpa using ih

end FileTree

namespace Draft

def taken (t : FileTree) (target : FilePath) (i : Nat) : Bool :=
  match t.entryPlace (pathFor target i) with
  | .ok (some place) => (t.find? place).isSome
  | _ => false

theorem freshPath_eq_ok {target path : FilePath} :
    freshPath t target = .ok path ↔ ∃ i, path = pathFor target i ∧ i < t.nodes.length + 1 ∧
      taken t target i = false ∧ ∀ j < i, taken t target j = true := by
  unfold freshPath
  dsimp only
  split
  · next k hfind =>
    have hfind : (List.range (t.nodes.length + 1)).find? (fun i => !taken t target i) = some k :=
      hfind
    obtain ⟨hfree, hk, hbefore⟩ := List.find?_range_eq_some.mp hfind
    have hfree : taken t target k = false := by simpa using hfree
    have hbefore : ∀ j < k, taken t target j = true := by simpa using hbefore
    rw [Except.ok.injEq]
    constructor
    · rintro rfl
      exact ⟨k, rfl, List.mem_range.mp hk, hfree, hbefore⟩
    · rintro ⟨i, rfl, -, hi, hbefore'⟩
      rcases Nat.lt_trichotomy i k with hlt | rfl | hlt
      · rw [hbefore i hlt] at hi
        cases hi
      · rfl
      · rw [hbefore' k hlt] at hfree
        cases hfree
  · next hfind =>
    have hfind : (List.range (t.nodes.length + 1)).find? (fun i => !taken t target i) = none :=
      hfind
    rw [List.find?_eq_none] at hfind
    simp only [reduceCtorEq, false_iff]
    rintro ⟨i, -, hi, hfree, -⟩
    exact hfind i (List.mem_range.mpr hi) (by simp [hfree])

/-- What a file system checks of a name in a directory that is there. -/
structure Admitted (p : FilePath) (name : String) : Prop where
  checked : checkPath (p.child name) = .ok ()
  dots : name ≠ ".."
  short : octetCount name ≤ maxName

theorem entryPlace_of_admitted (hdir : t.DirectoryAt p dir) :
    t.entryPlace (p.child name) = .ok (some place) ↔ Admitted p name ∧ place = dir ++ [name] := by
  rw [hdir.entryPlace_child]
  constructor
  · rintro ⟨hchecked, hdots, hshort, hplace⟩
    exact ⟨⟨hchecked, hdots, hshort⟩, hplace⟩
  · rintro ⟨⟨hchecked, hdots, hshort⟩, hplace⟩
    exact ⟨hchecked, hdots, hshort, hplace⟩

/-- A write returns when its draft and its target are admitted, and then it puts one file. -/
theorem storeAt_eq_ok (hdir : t.DirectoryAt p dir) {octets : List UInt8} :
    storeAt t (p.child name) octets = .ok t' ↔
      ∃ i, freshPath t (p.child name) = .ok (pathFor (p.child name) i) ∧
        Admitted p (nameFor name (tag i)) ∧ Admitted p name ∧
        t.find? (dir ++ [name]) ≠ some .directory ∧
        t' = t.put (dir ++ [name]) (.file octets) := by
  unfold storeAt store
  simp only [bind_eq_ok, putFile_eq_ok, rename_eq_ok]
  constructor
  · rintro ⟨path, hpath, made, ⟨_, hmade, rfl⟩, filled, ⟨_, hfilled, rfl⟩, _, htarget, hfree, rfl⟩
    obtain ⟨i, rfl, hnew⟩ := freshPath_returned hpath
    have hnew := hnew _ hmade
    rw [pathFor_child] at hmade hfilled
    have hne := ne_nil_of_entryPlace hmade
    obtain ⟨hmakes, hkeeps⟩ := keepsDirectories_drafted hne hnew octets
    obtain ⟨hdraft, rfl⟩ := (entryPlace_of_admitted hdir).mp hmade
    obtain ⟨-, rfl⟩ := (entryPlace_of_admitted (hdir.kept hmakes)).mp hfilled
    obtain ⟨hname, rfl⟩ := (entryPlace_of_admitted (hdir.kept hkeeps)).mp htarget
    have hdiscard := (entryPlace_of_admitted (hdir.kept hkeeps)).mpr ⟨hdraft, rfl⟩
    refine ⟨i, hpath, hdraft, hname, fun h => hfree (hkeeps.directories _ h), ?_⟩
    rw [discard, pathFor_child, hdiscard]
    dsimp only
    rw [put_put, erase_put hne hnew]
  · rintro ⟨i, hpath, hdraft, hname, hfree, rfl⟩
    obtain ⟨_, heq, hnew⟩ := freshPath_returned hpath
    rw [pathFor_child] at hpath hnew
    have hmade := (entryPlace_of_admitted hdir).mpr ⟨hdraft, rfl⟩
    have hnew := hnew _ hmade
    have hne := ne_nil_of_entryPlace hmade
    obtain ⟨hmakes, hkeeps⟩ := keepsDirectories_drafted hne hnew octets
    have hdiscard := (entryPlace_of_admitted (hdir.kept hkeeps)).mpr ⟨hdraft, rfl⟩
    refine ⟨_, hpath, _, ⟨_, hmade, rfl⟩, _,
      ⟨_, (entryPlace_of_admitted (hdir.kept hmakes)).mpr ⟨hdraft, rfl⟩, rfl⟩,
      _, (entryPlace_of_admitted (hdir.kept hkeeps)).mpr ⟨hname, rfl⟩, ?_, ?_⟩
    · simp only [find?_put hne]
      split
      · simp
      · exact hfree
    · rw [discard, hdiscard]
      dsimp only
      rw [put_put, erase_put hne hnew]

end Draft

/-! ## Later trees -/

/-- A tree that calls which write no draft's name have led to: directories and files are there
still, and no draft has come or gone. -/
structure FileTree.Later (t t' : FileTree) : Prop where
  keeps : KeepsDirectories t t'
  files : ∀ place octets, t.find? place = some (.file octets) →
    ∃ octets', t'.find? place = some (.file octets')
  drafts : ∀ dir name tag, t'.find? (dir ++ [Draft.nameFor name tag]) =
    t.find? (dir ++ [Draft.nameFor name tag])
  size : t.nodes.length ≤ t'.nodes.length

namespace FileTree

theorem Later.rfl : Later t t :=
  ⟨⟨Eq.refl _, fun _ => id⟩, fun _ octets h => ⟨octets, h⟩, fun _ _ _ => Eq.refl _, Nat.le_refl _⟩

theorem Later.trans (h : Later t u) (h' : Later u v) : Later t v := by
  refine ⟨h.keeps.trans h'.keeps, ?_, ?_, Nat.le_trans h.size h'.size⟩
  · intro place octets hplace
    obtain ⟨octets', hplace⟩ := h.files place octets hplace
    exact h'.files place octets' hplace
  · intro dir name tag
    rw [h'.drafts, h.drafts]

theorem later_put {n : FileNode} (hfinal : name.toList.getLast? ≠ some 'p')
    (hkeeps : KeepsDirectories t (t.put (dir ++ [name]) n))
    (hfile : (∃ octets, n = .file octets) ∨ t.find? (dir ++ [name]) = none) :
    Later t (t.put (dir ++ [name]) n) := by
  have hne : dir ++ [name] ≠ [] := by simp
  refine ⟨hkeeps, ?_, ?_, length_putNode n _ t.nodes⟩
  · intro place octets hplace
    rw [find?_put hne]
    split
    · next heq =>
      rcases hfile with ⟨octets', rfl⟩ | hnew
      · exact ⟨octets', rfl⟩
      · rw [heq, hnew] at hplace
        cases hplace
    · exact ⟨octets, hplace⟩
  · intro dir' name' tag
    rw [find?_put hne, if_neg]
    intro heq
    have hname := List.singleton_inj.mp (List.append_inj' heq rfl).2
    exact hfinal (hname ▸ Draft.getLast?_nameFor name' tag)

end FileTree

namespace Draft

theorem taken_of_later (h : Later u v) (hdir : u.DirectoryAt p dir) (i : Nat) :
    taken v (p.child name) i = taken u (p.child name) i := by
  have hentry (place : List String) :
      v.entryPlace (pathFor (p.child name) i) = .ok (some place) ↔
        u.entryPlace (pathFor (p.child name) i) = .ok (some place) := by
    rw [pathFor_child, entryPlace_of_admitted hdir, entryPlace_of_admitted (hdir.kept h.keeps)]
  have hplace (place : List String)
      (hu : u.entryPlace (pathFor (p.child name) i) = .ok (some place)) :
      v.find? place = u.find? place := by
    rw [pathFor_child, entryPlace_of_admitted hdir] at hu
    rw [hu.2, h.drafts]
  unfold taken
  split
  · next place hv =>
    have hu := (hentry place).mp hv
    rw [hu, hplace place hu]
  · next hv =>
    split
    · next place hu => exact absurd ((hentry place).mpr hu) (hv place)
    · rfl

theorem freshPath_of_later (h : Later u v) (hdir : u.DirectoryAt p dir) {path : FilePath}
    (hpath : freshPath u (p.child name) = .ok path) : freshPath v (p.child name) = .ok path := by
  obtain ⟨i, rfl, hi, hfree, hbefore⟩ := freshPath_eq_ok.mp hpath
  have hsize := h.size
  refine freshPath_eq_ok.mpr ⟨i, rfl, by omega, ?_, ?_⟩
  · rw [taken_of_later h hdir, hfree]
  · intro j hj
    rw [taken_of_later h hdir, hbefore j hj]

end Draft

namespace FileAction

variable {α β : Type}

/-- An action in a directory that leads to a later tree, and that can be done again in any tree
that is later than the one it left. -/
structure Repeatable (p : FilePath) (x : FileAction α) : Prop where
  later : ∀ {t t' : FileTree} {dir : List String} {a : α}, t.DirectoryAt p dir →
    outcome x t = (.ok a, t') → Later t t'
  again : ∀ {t t' v : FileTree} {dir : List String} {a : α}, t.DirectoryAt p dir →
    outcome x t = (.ok a, t') → Later t' v → ∃ v', outcome x v = (.ok a, v')

theorem repeatable_pure (p : FilePath) (a : α) : Repeatable p (FileAction.pure a) := by
  constructor
  · intro t t' dir b _ h
    rw [outcome_pure, Prod.mk.injEq] at h
    rw [← h.2]
    exact Later.rfl
  · intro t t' v dir b _ h _
    rw [outcome_pure, Prod.mk.injEq] at h
    exact ⟨v, by rw [outcome_pure, h.1]⟩

theorem Repeatable.bind {x : FileAction α} {f : α → FileAction β} (hx : Repeatable p x)
    (hf : ∀ a, Repeatable p (f a)) : Repeatable p (x.bind f) := by
  constructor
  · intro t t' dir b hdir h
    obtain ⟨a, u, hfirst, hrest⟩ := outcome_bind_eq_ok.mp h
    have hlater := hx.later hdir hfirst
    exact hlater.trans ((hf a).later (hdir.kept hlater.keeps) hrest)
  · intro t t' v dir b hdir h hv
    obtain ⟨a, u, hfirst, hrest⟩ := outcome_bind_eq_ok.mp h
    have hdir' := hdir.kept (hx.later hdir hfirst).keeps
    have hu := ((hf a).later hdir' hrest).trans hv
    obtain ⟨v₁, hagain⟩ := hx.again hdir hfirst hu
    -- The directory is there in `v` as well, so that the action leads on from `v`.
    have hv₁ := hx.later (hdir'.kept hu.keeps) hagain
    obtain ⟨v₂, hagain'⟩ := (hf a).again hdir' hrest (hv.trans hv₁)
    exact ⟨v₂, outcome_bind_eq_ok.mpr ⟨a, v₁, hagain, hagain'⟩⟩

theorem repeatable_each {f : α → FileAction β} {as : List α} (hf : ∀ a ∈ as, Repeatable p (f a)) :
    Repeatable p (FileAction.each f as) := by
  induction as with
  | nil => exact repeatable_pure p []
  | cons a as ih =>
    obtain ⟨ha, has⟩ := List.forall_mem_cons.mp hf
    exact ha.bind fun b => (ih has).bind fun bs => repeatable_pure p (b :: bs)

theorem Repeatable.below {x : FileAction α} (h : Repeatable p x) (name : String) :
    Repeatable (p.child name) x := by
  constructor
  · intro t t' dir a hdir hx
    obtain ⟨_, hparent⟩ := hdir.parent
    exact h.later hparent hx
  · intro t t' v dir a hdir hx hv
    obtain ⟨_, hparent⟩ := hdir.parent
    exact h.again hparent hx hv

theorem repeatable_write (p : FilePath) (hfinal : name.toList.getLast? ≠ some 'p')
    (s : List Char) : Repeatable p (FileAction.write (p.child name) s) := by
  constructor
  · intro t t' dir _ hdir h
    obtain ⟨log, h⟩ := outcome_eq_ok.mp h
    obtain ⟨-, hstore⟩ := (write_eq_returned hdir).mp h
    obtain ⟨_, _, _, _, hfree, rfl⟩ := (Draft.storeAt_eq_ok hdir).mp hstore
    have hne : dir ++ [name] ≠ [] := by simp
    exact later_put hfinal (Draft.keepsDirectories_putFile hne hfree _) (Or.inl ⟨_, rfl⟩)
  · intro t t' v dir _ hdir h hv
    obtain ⟨log, h⟩ := outcome_eq_ok.mp h
    obtain ⟨-, hstore⟩ := (write_eq_returned hdir).mp h
    obtain ⟨i, hpath, hdraft, hname, hfree, rfl⟩ := (Draft.storeAt_eq_ok hdir).mp hstore
    have hne : dir ++ [name] ≠ [] := by simp
    have hkeeps := Draft.keepsDirectories_putFile hne hfree (Text.encode s)
    have hlater := (later_put hfinal hkeeps (Or.inl ⟨_, rfl⟩)).trans hv
    -- The target is a file by now, and it is one in every later tree.
    obtain ⟨octets, hfile⟩ := hv.files (dir ++ [name]) (Text.encode s) (by simp [find?_put hne])
    have hdir' := hdir.kept hlater.keeps
    have hagain : Draft.storeAt v (p.child name) (Text.encode s) = .ok _ :=
      (Draft.storeAt_eq_ok hdir').mpr
        ⟨i, Draft.freshPath_of_later hlater hdir hpath, hdraft, hname, by simp [hfile], rfl⟩
    exact ⟨_, outcome_eq_ok.mpr ⟨[], (write_eq_returned hdir').mpr ⟨rfl, hagain⟩⟩⟩

theorem makeDirs_again {t t' v : FileTree} (h : outcome (FileAction.makeDirs p) t = (.ok (), t'))
    (hv : Later t' v) : outcome (FileAction.makeDirs p) v = (.ok (), v) := by
  obtain ⟨dir, hdir⟩ := makeDirs_returned h
  have hsame := makeDirs_of_directoryAt (hdir.kept hv.keeps)
  simp [outcome, FileAction.makeDirs, hsame]

theorem later_makeDirs_child (hdir : t.DirectoryAt p dir)
    (hfinal : name.toList.getLast? ≠ some 'p')
    (h : outcome (FileAction.makeDirs (p.child name)) t = (.ok (), t')) : Later t t' := by
  have h : t.makeDirs (p.child name) = (.ok (), t') := h
  rw [makeDirs_child_of_directoryAt hdir] at h
  rcases makeDirHere_cases h with ⟨-, rfl⟩ | ⟨place, hentry, hnew, rfl⟩
  · exact Later.rfl
  · obtain ⟨-, rfl⟩ := (Draft.entryPlace_of_admitted hdir).mp hentry
    have hkeeps : KeepsDirectories t (t.put (dir ++ [name]) .directory) :=
      keepsDirectories_put (by simp) (Or.inr rfl)
    exact later_put hfinal hkeeps (Or.inr hnew)

end FileAction
end ClientCompiler
