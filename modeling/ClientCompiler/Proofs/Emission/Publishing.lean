import ClientCompiler.Proofs.Emission.Contents

/-!
What the calls of an emission leave below its directory: each file with the text that was last
written to it. Where nothing is yet, all of them return.
-/

namespace ClientCompiler

open FileTree FileAction

namespace FilePath

def below (p : FilePath) (way : List String) : FilePath := { p with names := p.names ++ way }

theorem child_eq_below (p : FilePath) (name : String) : p.child name = p.below [name] := rfl

theorem child_child_eq_below (p : FilePath) (name name' : String) :
    (p.child name).child name' = p.below [name, name'] := by
  simp [child, below]

end FilePath

/-- Files and directories were put below a place, one after the other, and nothing else has
changed. -/
structure FileTree.Puts (base : List String) (t t' : FileTree)
    (ws : List (List String × FileNode)) : Prop where
  keeps : KeepsDirectories t t'
  nodes : ∀ other, t'.find? other =
    ((ws.map fun w => (base ++ w.1, w.2)).reverse.lookup other).or (t.find? other)

section Puts

variable {base sub way : List String} {t u t' : FileTree} {p : FilePath} {name : String}
  {ws ws' : List (List String × FileNode)}

theorem puts_nil (base : List String) (t : FileTree) : Puts base t t [] :=
  ⟨⟨rfl, fun _ => id⟩, fun _ => rfl⟩

theorem FileTree.Puts.append (h : Puts base t u ws) (h' : Puts base u t' ws') :
    Puts base t t' (ws ++ ws') := by
  refine ⟨h.keeps.trans h'.keeps, ?_⟩
  intro other
  rw [h'.nodes, h.nodes, List.map_append, List.reverse_append, List.lookup_append, Option.or_assoc]

theorem lookup_placed (base way : List String) (ws : List (List String × FileNode)) :
    (ws.map fun w => (base ++ w.1, w.2)).lookup (base ++ way) = ws.lookup way := by
  induction ws with
  | nil => rfl
  | cons w ws ih =>
    obtain ⟨v, n⟩ := w
    have hbeq : (base ++ way == base ++ v) = (way == v) := by
      rw [Bool.eq_iff_iff, beq_iff_eq, beq_iff_eq, List.append_cancel_left_eq]
    rw [List.map_cons, List.lookup_cons, List.lookup_cons, hbeq, ih]

theorem FileTree.Puts.find? (h : Puts base t t' ws) (way : List String) :
    t'.find? (base ++ way) = (ws.reverse.lookup way).or (t.find? (base ++ way)) := by
  rw [h.nodes, ← List.map_reverse, lookup_placed]

theorem FileTree.Puts.find?_one {n : FileNode} (h : Puts base t t' [(way, n)])
    (other : List String) :
    t'.find? (base ++ other) = if other = way then some n else t.find? (base ++ other) := by
  rw [h.find?, List.reverse_singleton, List.lookup_cons]
  by_cases heq : other = way
  · simp [heq]
  · have hbeq : (other == way) = false := by simpa using heq
    rw [if_neg heq, hbeq]
    rfl

theorem puts_singleton {n : FileNode} (hkeeps : KeepsDirectories t t')
    (h : ∀ other, t'.find? other = if other = base ++ way then some n else t.find? other) :
    Puts base t t' [(way, n)] := by
  refine ⟨hkeeps, ?_⟩
  intro other
  rw [h other, List.map_singleton, List.reverse_singleton, List.lookup_cons]
  by_cases heq : other = base ++ way
  · simp [heq]
  · have hbeq : (other == base ++ way) = false := by simpa using heq
    rw [if_neg heq, hbeq]
    rfl

theorem Wrote.puts {octets : List UInt8} (h : Wrote t t' (base ++ way) octets) :
    Puts base t t' [(way, .file octets)] := puts_singleton h.keepsDirectories h.nodes

/-- A directory is made below one that is there, or is there already. -/
theorem makeDirs_puts (hdir : t.DirectoryAt p base) (hname : name ≠ "..")
    (h : outcome (FileAction.makeDirs (p.child name)) t = (.ok (), t')) :
    Puts base t t' [([name], .directory)] ∧ t'.DirectoryAt (p.child name) (base ++ [name]) := by
  have hmake : t.makeDirHere (p.child name) = (.ok (), t') := by
    rw [← makeDirs_child_of_directoryAt hdir]
    exact h
  rcases makeDirHere_cases hmake with ⟨⟨dir, hthere⟩, rfl⟩ | ⟨place, hentry, hfree, rfl⟩
  · obtain ⟨-, -, dir', hparent, rfl⟩ := (locate_child hdir.checked hname).mp hthere.located
    obtain rfl := hdir.unique hparent
    refine ⟨puts_singleton ⟨rfl, fun _ => id⟩ ?_, hthere⟩
    intro other
    split
    · next heq => rw [heq, hthere.found]
    · rfl
  · have hplace := ne_nil_of_entryPlace hentry
    have hkeeps := keepsDirectories_put hplace (Or.inr rfl) (t := t)
    have hlocated := locate_of_entryPlace hentry hkeeps
    obtain ⟨-, -, -, rfl⟩ := hdir.entryPlace_child.mp hentry
    exact ⟨puts_singleton hkeeps (find?_put hplace .directory), hlocated,
      by rw [find?_put hplace, if_pos rfl]⟩

theorem vacant_of_makeDirs (hdir : t.DirectoryAt p base) (hname : name ≠ "..")
    (h : outcome (FileAction.makeDirs (p.child name)) t = (.ok (), t')) :
    t.find? (base ++ [name]) = none ∨ t.find? (base ++ [name]) = some .directory := by
  have hmake : t.makeDirHere (p.child name) = (.ok (), t') := by
    rw [← makeDirs_child_of_directoryAt hdir]
    exact h
  rcases makeDirHere_cases hmake with ⟨⟨dir, hthere⟩, -⟩ | ⟨place, hentry, hfree, -⟩
  · obtain ⟨-, -, dir', hparent, rfl⟩ := (locate_child hdir.checked hname).mp hthere.located
    obtain rfl := hdir.unique hparent
    exact Or.inr hthere.found
  · obtain ⟨-, -, -, rfl⟩ := hdir.entryPlace_child.mp hentry
    exact Or.inl hfree

structure Writable (p : FilePath) (name : String) : Prop where
  fits : Draft.Fits name
  checked : checkPath (p.child name) = .ok ()

theorem Writable.locate {dir : List String} (h : Writable p name) (hdir : t.DirectoryAt p dir) :
    t.locate (p.child name) = .ok (dir ++ [name]) :=
  (locate_child hdir.checked h.fits.dots).mpr
    ⟨h.checked, h.fits.octetCount_le, dir, hdir, rfl⟩

theorem write_puts (hdir : t.DirectoryAt p (base ++ sub)) {s : List Char}
    (h : outcome (FileAction.write (p.child name) s) t = (.ok (), t')) :
    Puts base t t' [(sub ++ [name], .file (Text.encode s))] ∧ Writable p name := by
  obtain ⟨log, h⟩ := outcome_eq_ok.mp h
  obtain ⟨-, hstore⟩ := (write_eq_returned hdir).mp h
  obtain ⟨hwrote, hfits, hchecked⟩ := Draft.storeAt_returned hdir hstore
  rw [List.append_assoc] at hwrote
  exact ⟨hwrote.puts, hfits, hchecked⟩

theorem write_puts_here (hdir : t.DirectoryAt p base) {s : List Char}
    (h : outcome (FileAction.write (p.child name) s) t = (.ok (), t')) :
    Puts base t t' [([name], .file (Text.encode s))] ∧ Writable p name := by
  rw [← List.append_nil base] at hdir
  exact write_puts hdir h

def filesIn (sub : List String) (ms : List (String × List Char)) :
    List (List String × FileNode) :=
  ms.map fun m => (sub ++ [m.1], .file (Text.encode m.2))

theorem writes_put {ms : List (String × List Char)} {rs : List Unit} :
    ∀ {t : FileTree}, t.DirectoryAt p (base ++ sub) →
      outcome (FileAction.each (fun m => FileAction.write (p.child m.1) m.2) ms) t = (.ok rs, t') →
      Puts base t t' (filesIn sub ms) ∧ ∀ m ∈ ms, Writable p m.1 := by
  induction ms generalizing rs t' with
  | nil =>
    intro t hdir h
    obtain rfl : t = t' := (Prod.mk.inj h).2
    exact ⟨puts_nil base t, nofun⟩
  | cons m ms ih =>
    intro t hdir h
    obtain ⟨_, u, hwrite, h⟩ := outcome_bind_eq_ok.mp h
    obtain ⟨_, v, hrest, h⟩ := outcome_bind_eq_ok.mp h
    obtain rfl : v = t' := (Prod.mk.inj h).2
    obtain ⟨hputs, hwritable⟩ := write_puts hdir hwrite
    obtain ⟨hputs', hwritable'⟩ := ih (hdir.kept hputs.keeps) hrest
    exact ⟨hputs.append hputs', List.forall_mem_cons.mpr ⟨hwritable, hwritable'⟩⟩

end Puts

namespace Emission

/-- What an emission puts below its directory, in this order. -/
def Contents.nodes (k : Contents) : List (List String × FileNode) :=
  [(["types.ts"], .file (Text.encode k.types))] ++ [(["modules"], .directory)] ++
    filesIn ["modules"] k.modules ++ [(["manifest.json"], .file (Text.encode k.manifest))] ++
    [(["docs.json"], .file (Text.encode k.docs))]

structure Published (out : FilePath) (k : Contents) (base : List String) (t t' : FileTree) :
    Prop where
  root : t'.DirectoryAt out base
  modules : t'.DirectoryAt (modulesDir out) (base ++ ["modules"])
  puts : Puts base t t' k.nodes
  vacant : t.find? (base ++ ["modules"]) = none ∨ t.find? (base ++ ["modules"]) = some .directory
  files : ∀ name ∈ ["types.ts", "manifest.json", "docs.json"], Writable out name
  moduleFiles : ∀ m ∈ k.modules, Writable (modulesDir out) m.1

variable {out : FilePath} {k : Contents} {base : List String} {t t' : FileTree}

/-- The invariant along the calls: both directories stay, and the nodes add up. -/
theorem publish_returned (h : outcome (publish out k) t = (.ok (), t')) :
    ∃ base t₀, outcome (FileAction.makeDirs out) t = (.ok (), t₀) ∧ Published out k base t₀ t' := by
  unfold publish at h
  simp only [bind_eq] at h
  obtain ⟨_, t₀, hout, h⟩ := outcome_bind_eq_ok.mp h
  obtain ⟨_, t₁, htypes, h⟩ := outcome_bind_eq_ok.mp h
  obtain ⟨_, t₂, hdir, h⟩ := outcome_bind_eq_ok.mp h
  obtain ⟨_, t₃, hmodules, h⟩ := outcome_bind_eq_ok.mp h
  obtain ⟨_, t₄, hmanifest, hdocs⟩ := outcome_bind_eq_ok.mp h
  obtain ⟨base, hroot⟩ := makeDirs_returned hout
  obtain ⟨hputs₁, htypes⟩ := write_puts_here hroot htypes
  have hroot := hroot.kept hputs₁.keeps
  have hvacant := vacant_of_makeDirs hroot (by decide) hdir
  rw [hputs₁.find?_one, if_neg (by decide)] at hvacant
  obtain ⟨hputs₂, hbelow⟩ := makeDirs_puts hroot (by decide) hdir
  have hroot := hroot.kept hputs₂.keeps
  obtain ⟨hputs₃, hmodules⟩ := writes_put hbelow hmodules
  have hroot := hroot.kept hputs₃.keeps
  obtain ⟨hputs₄, hmanifest⟩ := write_puts_here hroot hmanifest
  have hroot := hroot.kept hputs₄.keeps
  obtain ⟨hputs₅, hdocs⟩ := write_puts_here hroot hdocs
  have hroot := hroot.kept hputs₅.keeps
  have hbelow := ((hbelow.kept hputs₃.keeps).kept hputs₄.keeps).kept hputs₅.keeps
  have hputs := (((hputs₁.append hputs₂).append hputs₃).append hputs₄).append hputs₅
  refine ⟨base, t₀, hout, hroot, hbelow, hputs, hvacant, ?_, hmodules⟩
  intro name hname
  simp only [List.mem_cons, List.not_mem_nil, or_false] at hname
  rcases hname with rfl | rfl | rfl
  · exact htypes
  · exact hmanifest
  · exact hdocs

/-! ## Reading what was written -/

theorem Contents.mem_nodes {way : List String} {n : FileNode} (h : (way, n) ∈ k.nodes) :
    (∃ name ∈ ["types.ts", "manifest.json", "docs.json"], way = [name] ∧
        ∃ octets, n = .file octets) ∨
      (way = ["modules"] ∧ n = .directory) ∨
      ∃ m ∈ k.modules, way = ["modules", m.1] ∧ n = .file (Text.encode m.2) := by
  simp only [Contents.nodes, filesIn, List.mem_append, List.mem_singleton, List.mem_map,
    Prod.mk.injEq] at h
  rcases h with (((⟨rfl, rfl⟩ | ⟨rfl, rfl⟩) | ⟨m, hm, rfl, rfl⟩) | ⟨rfl, rfl⟩) | ⟨rfl, rfl⟩
  · exact Or.inl ⟨_, by simp, rfl, _, rfl⟩
  · exact Or.inr (Or.inl ⟨rfl, rfl⟩)
  · exact Or.inr (Or.inr ⟨m, hm, rfl, rfl⟩)
  · exact Or.inl ⟨_, by simp, rfl, _, rfl⟩
  · exact Or.inl ⟨_, by simp, rfl, _, rfl⟩

theorem mem_nodes_of_lookup {way : List String} {n : FileNode}
    (h : k.nodes.reverse.lookup way = some n) : (way, n) ∈ k.nodes := by
  obtain ⟨before, after, hnodes, -⟩ := List.lookup_eq_some_iff.mp h
  rw [← List.mem_reverse, hnodes]
  simp

theorem Published.locate (h : Published out k base t t') {way : List String}
    {octets : List UInt8} (hway : (way, .file octets) ∈ k.nodes) :
    t'.locate (out.below way) = .ok (base ++ way) := by
  rcases Contents.mem_nodes hway with ⟨name, hname, rfl, -⟩ | ⟨-, hn⟩ | ⟨m, hm, rfl, -⟩
  · rw [← FilePath.child_eq_below]
    exact (h.files name hname).locate h.root
  · cases hn
  · have hlocated := (h.moduleFiles m hm).locate h.modules
    rw [modulesDir, FilePath.child_child_eq_below, List.append_assoc] at hlocated
    exact hlocated

theorem Published.read (h : Published out k base t t') {way : List String} {octets : List UInt8}
    (hway : k.nodes.reverse.lookup way = some (.file octets)) :
    t'.read (out.below way) = .ok octets ∧ t'.isFile (out.below way) = .ok true := by
  have hfound : t'.find? (base ++ way) = some (.file octets) := by
    rw [h.puts.find?, hway]
    rfl
  have hlocated := h.locate (mem_nodes_of_lookup hway)
  exact ⟨FileTree.read_of_file hlocated hfound, FileTree.isFile_of_file hlocated hfound⟩

/-- No other node has the name of the file of types. -/
theorem Contents.lookup_types (k : Contents) :
    k.nodes.reverse.lookup ["types.ts"] = some (.file (Text.encode k.types)) := by
  have hmodules : (filesIn ["modules"] k.modules).reverse.lookup ["types.ts"] = none := by
    rw [List.lookup_eq_none_iff]
    intro node hnode
    obtain ⟨m, -, rfl⟩ := List.mem_map.mp (List.mem_reverse.mp hnode)
    simp
  simp [Contents.nodes, List.lookup_append, List.lookup_cons, hmodules]

theorem Contents.lookup_docs (k : Contents) :
    k.nodes.reverse.lookup ["docs.json"] = some (.file (Text.encode k.docs)) := by
  rw [Contents.nodes, List.reverse_append, List.reverse_singleton, List.singleton_append,
    List.lookup_cons_self]

def ways (c : Client) : List (List String) :=
  ["types.ts"] :: c.modules.map (fun m => ["modules", moduleFile m]) ++
    [["manifest.json"], ["docs.json"]]

theorem paths_eq (out : FilePath) (c : Client) : paths out c = (ways c).map out.below := by
  have hmodule : modulePath out = fun m => out.below ["modules", moduleFile m] :=
    funext fun m => FilePath.child_child_eq_below out "modules" (moduleFile m)
  rw [paths, ways, hmodule, List.map_append, List.map_cons, List.map_map]
  rfl

variable {r : Renderer} {f : Formatters} {texts : Slots String} {c : Client}

theorem names_of_contents (h : contents r f texts c = .ok k) :
    k.modules.map Prod.fst = c.modules.map moduleFile := by
  obtain ⟨templates, -, -, hmodules, -⟩ := contents_eq_ok.mp h
  have hforall := mapM_eq_ok.mp hmodules
  clear h hmodules
  generalize c.modules = ms, k.modules = ks at hforall ⊢
  induction hforall with
  | nil => rfl
  | cons hm _ ih =>
    obtain ⟨s, -, hm⟩ := bind_eq_ok.mp hm
    rw [List.map_cons, List.map_cons, ih, ← pure_eq_ok.mp hm]

theorem ways_of_contents (h : contents r f texts c = .ok k) :
    k.nodes.map Prod.fst = ["types.ts"] :: ["modules"] ::
      c.modules.map (fun m => ["modules", moduleFile m]) ++ [["manifest.json"], ["docs.json"]] := by
  have hmodules : (filesIn ["modules"] k.modules).map Prod.fst =
      c.modules.map fun m => ["modules", moduleFile m] := by
    have hnames := congrArg (List.map fun name => ["modules", name]) (names_of_contents h)
    rw [List.map_map, List.map_map] at hnames
    rw [filesIn, List.map_map]
    exact hnames
  simp [Contents.nodes, hmodules]

theorem lookup_of_mem_ways (h : contents r f texts c = .ok k) {way : List String}
    (hway : way ∈ ways c) : ∃ octets, k.nodes.reverse.lookup way = some (.file octets) := by
  have hmodules : way ≠ ["modules"] := by
    rintro rfl
    simp [ways] at hway
  have hwritten : way ∈ k.nodes.map Prod.fst := by
    rw [ways_of_contents h, List.cons_append, List.cons_append]
    rw [ways, List.cons_append] at hway
    rcases List.mem_cons.mp hway with rfl | hway
    · exact List.mem_cons_self
    · exact List.mem_cons_of_mem _ (List.mem_cons_of_mem _ hway)
  obtain ⟨w, hw, rfl⟩ := List.mem_map.mp hwritten
  have hsome : (k.nodes.reverse.lookup w.1).isSome :=
    List.lookup_isSome_iff.mpr ⟨w, List.mem_reverse.mpr hw, beq_self_eq_true w.1⟩
  obtain ⟨n, hn⟩ := Option.isSome_iff_exists.mp hsome
  rcases Contents.mem_nodes (mem_nodes_of_lookup hn) with
    ⟨_, _, _, octets, rfl⟩ | ⟨heq, _⟩ | ⟨_, _, _, rfl⟩
  · exact ⟨octets, hn⟩
  · exact absurd heq hmodules
  · exact ⟨_, hn⟩

/-! ## Failing -/

def Refuses {α : Type} (x : FileAction α) : Prop := ∀ t, OnlyRefuses (outcome x t).1

theorem Refuses.bind {α β : Type} {x : FileAction α} {g : α → FileAction β} (hx : Refuses x)
    (hg : ∀ a, Refuses (g a)) : Refuses (x.bind g) := FailsWithin.bind hx hg

theorem refuses_pure {α : Type} (a : α) : Refuses (FileAction.pure a) := FailsWithin.pure a

theorem refuses_makeDirs (p : FilePath) : Refuses (FileAction.makeDirs p) :=
  fun t => onlyRefuses_makeDirs t p

theorem refuses_write (p : FilePath) (s : List Char) : Refuses (FileAction.write p s) :=
  onlyRefuses_write p s

theorem refuses_each {α β : Type} {g : α → FileAction β} (hg : ∀ a, Refuses (g a)) (as : List α) :
    Refuses (FileAction.each g as) := FailsWithin.each hg as

theorem refuses_publish (out : FilePath) (k : Contents) : Refuses (publish out k) := by
  simp only [publish, bind_eq]
  refine (refuses_makeDirs out).bind fun _ => ?_
  refine (refuses_write _ _).bind fun _ => ?_
  refine (refuses_makeDirs _).bind fun _ => ?_
  have hmodule (m : String × List Char) :
    Refuses (FileAction.write ((modulesDir out).child m.1) m.2) := refuses_write _ _
  refine (refuses_each hmodule k.modules).bind fun _ => ?_
  exact (refuses_write _ _).bind fun _ => refuses_write _ _

end Emission
end ClientCompiler
