import ClientCompiler.Proofs.Files.Ways
import ClientCompiler.Proofs.Files.Writing

/-!
A write whose calls fail, in any combination. Up to the renaming the tree differs from the one that
was found in the place of the draft only, and the renaming is a single call; so the file is the old
one or the new one at every moment. The calls that failed tell what stays of the draft.
-/

namespace ClientCompiler

open FileTree

namespace Draft

/-! ## The trees of a write -/

/-- A draft that can be made: the directory of its target is there, and the draft would be a new
entry of it. -/
structure Ready (d : Draft) (b : FileTree) (dir place : List String) : Prop where
  named : ∃ i, d.path = pathFor d.target i
  directory : b.DirectoryAt d.target.parent dir
  entry : b.entryPlace d.path = .ok (some place)
  free : b.find? place = none

/-- The tree as it was found but for the place of the draft, where nothing is or a file. -/
structure Beside (b u : FileTree) (place : List String) (draft : Option (List UInt8)) : Prop where
  workDir : u.workDir = b.workDir
  nodes : ∀ other, u.find? other = if other = place then draft.map .file else b.find? other

/-- The target was replaced, and nothing else differs from the tree that was found. -/
def Renamed (d : Draft) (b u : FileTree) : Prop :=
  ∃ place, b.entryPlace d.target = .ok (some place) ∧ Wrote b u place d.octets

variable {d : Draft} {b u u' : FileTree} {dir place q : List String} {o : Option (List UInt8)}
  {octets : List UInt8} {fails : WriteStep → Bool}

theorem Ready.place_eq (h : Ready d b dir place) :
    ∃ tag, place = dir ++ [nameFor d.target.name tag] := by
  obtain ⟨i, hpath⟩ := h.named
  have hentry := h.entry
  rw [hpath] at hentry
  obtain ⟨-, -, -, hplace⟩ := h.directory.entryPlace_child.mp hentry
  exact ⟨tag i, hplace⟩

theorem Ready.target_ne (h : Ready d b dir place) (hq : b.locate d.target = .ok q) :
    q ≠ place := by
  obtain ⟨tag, rfl⟩ := h.place_eq
  rintro rfl
  rcases h.directory.locate_cases hq with hlength | heq
  · rw [List.length_append, List.length_singleton] at hlength
    omega
  · exact nameFor_ne _ tag (List.singleton_inj.mp (List.append_cancel_left heq))

theorem beside_rfl (hfree : b.find? place = none) : Beside b b place none := by
  refine ⟨rfl, ?_⟩
  intro other
  split
  · next heq => rw [heq, hfree]; rfl
  · rfl

theorem Beside.keeps (h : Beside b u place o) (hfree : b.find? place = none) :
    KeepsDirectories b u := by
  refine ⟨h.workDir, ?_⟩
  intro other hother
  rw [h.nodes, if_neg, hother]
  rintro rfl
  rw [hfree] at hother
  cases hother

/-- The draft is no directory: no path leads on from it. -/
theorem Beside.keeps_back (h : Beside b u place o) : KeepsDirectories u b := by
  refine ⟨h.workDir.symm, ?_⟩
  intro other hother
  rw [h.nodes] at hother
  split at hother
  · cases o <;> cases hother
  · exact hother

theorem Beside.put (h : Beside b u place o) (hplace : place ≠ []) (octets : List UInt8) :
    Beside b (u.put place (.file octets)) place (some octets) := by
  refine ⟨h.workDir, ?_⟩
  intro other
  rw [find?_put hplace, h.nodes]
  split <;> rfl

/-! ## Single calls -/

theorem Beside.discard (h : Beside b u place o) (hready : Ready d b dir place) :
    Beside b (d.discard u) place none := by
  have hentry := (h.keeps hready.free).entryPlace hready.entry
  rw [Draft.discard, hentry]
  refine ⟨h.workDir, ?_⟩
  intro other
  rw [find?_erase (ne_nil_of_entryPlace hentry), h.nodes]
  split <;> rfl

/-- The calls on the open draft, and the one that closes it, do their work; they touch the draft
only. -/
theorem Beside.perform (h : Beside b u place (some octets)) (hready : Ready d b dir place)
    {step : WriteStep} (hcreate : step ≠ .create) (hrename : step ≠ .rename) :
    ∃ u' octets', d.perform u step = .ok u' ∧ Beside b u' place (some octets') := by
  have hentry := (h.keeps hready.free).entryPlace hready.entry
  cases step with
  | create => exact absurd rfl hcreate
  | rename => exact absurd rfl hrename
  | flush =>
    exact ⟨_, d.octets, putFile_eq_ok.mpr ⟨place, hentry, rfl⟩,
      h.put (ne_nil_of_entryPlace hentry) d.octets⟩
  | write => exact ⟨u, octets, rfl, h⟩
  | sync => exact ⟨u, octets, rfl, h⟩
  | close => exact ⟨u, octets, rfl, h⟩

theorem Beside.rename (h : Beside b u place (some octets)) (hready : Ready d b dir place)
    (hrename : d.rename u = .ok u') : Renamed d b u' := by
  obtain ⟨q, hentry, hplain, rfl⟩ := rename_eq_ok.mp hrename
  have hclean := h.discard hready
  have hkeeps := h.keeps hready.free
  refine ⟨q, h.keeps_back.entryPlace hentry, hclean.workDir, ?_, ?_⟩
  · exact fun hdirectory => hplain (hkeeps.directories q hdirectory)
  · intro other
    rw [find?_put (ne_nil_of_entryPlace hentry), hclean.nodes]
    split
    · rfl
    · split
      · next heq => rw [heq, hready.free]; rfl
      · rfl

/-! ## A run -/

/-- Where a run leads from a tree with an open draft, and when it leaves the draft behind. -/
structure Leads (d : Draft) (b : FileTree) (place : List String) (strands : Prop) (u : FileTree)
    (r : WriteRun) : Prop where
  moments : ∀ v ∈ r.trees, (∃ o, Beside b v place o) ∨ Renamed d b v
  returned : r.result = .ok () → Renamed d b (r.last u)
  raised : ∀ e, r.result = .error e →
    ∃ o, Beside b (r.last u) place o ∧ (o = none ↔ ¬strands)

variable {strands : Prop} {step : WriteStep} {steps : List WriteStep} {e : Fault}

theorem perform_of_attempt (h : d.attempt fails step u = .ok u') : d.perform u step = .ok u' := by
  unfold attempt at h
  split at h
  · cases h
  · exact h

theorem leads_cons (hattempt : d.attempt fails step u = .ok u')
    (hu' : (∃ o, Beside b u' place o) ∨ Renamed d b u')
    (h : Leads d b place strands u' (d.run fails steps u')) :
    Leads d b place strands u (d.run fails (step :: steps) u) := by
  rw [run, hattempt]
  refine ⟨List.forall_mem_cons.mpr ⟨hu', h.moments⟩, ?_, ?_⟩
  · rw [WriteRun.last_cons]
    exact h.returned
  · rw [WriteRun.last_cons]
    exact h.raised

theorem leads_cleanUp (hready : Ready d b dir place) (hu : Beside b u place (some octets))
    (hattempt : d.attempt fails step u = .error e) (hcreate : step ≠ .create)
    (hstrands : strands ↔ step.leavesOpen = true ∧ fails .close = true) :
    Leads d b place strands u (d.run fails (step :: steps) u) := by
  rw [run, hattempt]
  dsimp only [cleanUp]
  rw [if_neg hcreate]
  split
  · next hopen =>
    have hopen : strands := hstrands.mpr (by simpa using hopen)
    constructor
    · intro v hv
      cases hv
    · intro hresult
      cases hresult
    · intro _ _
      exact ⟨some octets, hu, by simp [hopen]⟩
  · next hclosed =>
    have hclosed : ¬strands := fun h => hclosed (by simpa using hstrands.mp h)
    have hclean := hu.discard hready
    constructor
    · intro v hv
      rw [List.mem_singleton.mp hv]
      exact Or.inl ⟨none, hclean⟩
    · intro hresult
      cases hresult
    · intro _ _
      exact ⟨none, hclean, by simp [hclosed]⟩

theorem leads_rename (hready : Ready d b dir place) (hu : Beside b u place (some octets)) :
    Leads d b place False u (d.run fails [.rename] u) := by
  cases hattempt : d.attempt fails .rename u with
  | error e => exact leads_cleanUp hready hu hattempt (by decide) (by simp [WriteStep.leavesOpen])
  | ok u' =>
    have hrenamed := hu.rename hready (perform_of_attempt hattempt)
    exact leads_cons hattempt (Or.inr hrenamed) ⟨nofun, fun _ => hrenamed, nofun⟩

/-- A call on the draft either fails of itself, and the clean-up follows, or leads on with the
draft in its place. -/
theorem leads_call (hready : Ready d b dir place) (hu : Beside b u place (some octets))
    (hcreate : step ≠ .create) (hrename : step ≠ .rename)
    (hfails : fails step = true → (strands ↔ step.leavesOpen = true ∧ fails .close = true))
    (hsteps : fails step = false → ∀ u' octets', Beside b u' place (some octets') →
      Leads d b place strands u' (d.run fails steps u')) :
    Leads d b place strands u (d.run fails (step :: steps) u) := by
  cases hstep : fails step with
  | true =>
    have hattempt : d.attempt fails step u = .error (.system .failed) := by simp [attempt, hstep]
    exact leads_cleanUp hready hu hattempt hcreate (hfails hstep)
  | false =>
    obtain ⟨u', octets', hperform, hu'⟩ := hu.perform hready hcreate hrename
    have hattempt : d.attempt fails step u = .ok u' := by simp [attempt, hstep, hperform]
    exact leads_cons hattempt (Or.inl ⟨_, hu'⟩) (hsteps hstep u' octets' hu')

/-- The induction is on the calls while the draft is open. Once it is closed, every failure is
cleaned up. -/
theorem leads_open (hready : Ready d b dir place) (hu : Beside b u place (some octets))
    (hopen : ∀ step ∈ steps, step.leavesOpen = true) :
    Leads d b place (fails .close = true ∧ ∃ step ∈ steps, fails step = true) u
      (d.run fails (steps ++ [.close, .rename]) u) := by
  induction steps generalizing u octets with
  | nil =>
    simp only [List.not_mem_nil, false_and, exists_false, and_false, List.nil_append]
    refine leads_call hready hu (by decide) (by decide) ?_ ?_
    · simp [WriteStep.leavesOpen]
    · exact fun _ _ _ hu' => leads_rename hready hu'
  | cons step steps ih =>
    obtain ⟨hstep, hsteps⟩ := List.forall_mem_cons.mp hopen
    refine leads_call hready hu ?_ ?_ ?_ ?_
    · rintro rfl
      cases hstep
    · rintro rfl
      cases hstep
    · intro hfails
      simp [hfails, hstep]
    · intro hworks u' octets' hu'
      have hrest := ih hu' hsteps
      simpa [hworks] using hrest

/-- The draft is still open when a call fails, and then closing it fails. -/
def Strands (fails : WriteStep → Bool) : Prop :=
  fails .close = true ∧ ∃ step ∈ [WriteStep.write, .flush, .sync], fails step = true

theorem run_of_uncreated (hcreate : d.attempt fails .create u = .error e) :
    d.run fails WriteStep.all u = ⟨[], .error e⟩ := by
  rw [WriteStep.all, run, hcreate]
  rfl

theorem leads_of_created (hready : Ready d b dir place)
    (hcreate : d.attempt fails .create b = .ok u) :
    Beside b u place (some []) ∧
      Leads d b place (Strands fails) b (d.run fails WriteStep.all b) := by
  obtain ⟨place', hentry, rfl⟩ := putFile_eq_ok.mp (perform_of_attempt hcreate)
  obtain rfl : place = place' := Option.some.inj (Except.ok.inj (hready.entry.symm.trans hentry))
  have hmade := (beside_rfl hready.free).put (ne_nil_of_entryPlace hentry) []
  have hopen : ∀ step ∈ [WriteStep.write, .flush, .sync], step.leavesOpen = true := by decide
  exact ⟨hmade, leads_cons hcreate (Or.inl ⟨_, hmade⟩) (leads_open hready hmade hopen)⟩

end Draft

/-! ## The whole write -/

/-- A place is as it was, or it is one of the directories that were made on the way to a path. -/
def FileTree.Kept (p : FilePath) (t u : FileTree) (place : List String) : Prop :=
  u.find? place ≠ t.find? place → t.find? place = none ∧ u.find? place = some .directory ∧
    ∃ q : FilePath, q.Above p ∧ u.locate q = .ok place

/-- What the tree shows at one moment of a write. No place but the draft's holds anything new, save
that the file at the target may hold all that is written. -/
structure Untorn (t : FileTree) (target : FilePath) (octets : List UInt8)
    (draft : Option (List String)) (u : FileTree) : Prop where
  directories : KeepsDirectories t u
  apart : ∀ place ∈ draft, u.locate target ≠ .ok place
  places : ∀ place ∉ draft, Kept target.parent t u place ∨
    u.locate target = .ok place ∧ u.find? place = some (.file octets)

/-- What a write does, whichever of its calls fail. `draft` is the place of the draft, once it was
made; `run` has the tree after every call. -/
structure Atomic (t : FileTree) (fails : WriteStep → Bool) (target : FilePath)
    (octets : List UInt8) (run : WriteRun) (draft : Option (List String)) : Prop where
  fresh : ∀ place ∈ draft, t.find? place = none ∧
    ∃ dir tag, place = dir ++ [Draft.nameFor target.name tag]
  made : ∀ place ∈ draft, ∃ u ∈ run.trees, u.find? place = some (.file [])
  moments : ∀ u ∈ run.trees, Untorn t target octets draft u
  returned : run.result = .ok () → (run.last t).read target = .ok octets ∧
    ∀ place ∈ draft, (run.last t).find? place = none
  raised : ∀ e, run.result = .error e →
    (∀ place ∉ draft, Kept target.parent t (run.last t) place) ∧
    ∀ place ∈ draft, (run.last t).find? place = none ↔ ¬Draft.Strands fails

section Whole

variable {t b u : FileTree} {d : Draft} {target : FilePath} {octets : List UInt8}
  {fails : WriteStep → Bool} {dir place : List String} {o : Option (List UInt8)}

theorem FileTree.MadeWay.kept {p : FilePath} (h : MadeWay p t b) (hkeeps : KeepsDirectories b u)
    (hsame : u.find? place = b.find? place) : Kept p t u place := by
  intro hplace
  rw [hsame] at hplace ⊢
  obtain ⟨hnew, hdirectory, q, hq, hlocated⟩ := h.made place hplace
  exact ⟨hnew, hdirectory, q, hq, hkeeps.locate hlocated⟩

theorem FileTree.MadeWay.free {p : FilePath} (h : MadeWay p t b) (hfree : b.find? place = none) :
    t.find? place = none := by
  by_contra hthere
  obtain ⟨hnew, -⟩ := h.made place (by rw [hfree]; exact Ne.symm hthere)
  exact hthere hnew

theorem Draft.Beside.kept (h : Draft.Beside b u place o) (hready : d.Ready b dir place)
    (hmade : MadeWay d.target.parent t b) {other : List String} (hother : other ≠ place) :
    Kept d.target.parent t u other :=
  hmade.kept (h.keeps hready.free) (by rw [h.nodes, if_neg hother])

theorem Draft.Beside.untorn (h : Draft.Beside b u place o) (hready : d.Ready b dir place)
    (hmade : MadeWay d.target.parent t b) : Untorn t d.target d.octets (some place) u := by
  refine ⟨hmade.keeps.trans (h.keeps hready.free), ?_, ?_⟩
  · rintro _ ⟨⟩ hlocated
    exact hready.target_ne (h.keeps_back.locate hlocated) rfl
  · intro other hother
    exact Or.inl (h.kept hready hmade fun heq => hother (heq ▸ rfl))

theorem Draft.Renamed.untorn (h : d.Renamed b u) (hready : d.Ready b dir place)
    (hmade : MadeWay d.target.parent t b) :
    Untorn t d.target d.octets (some place) u ∧ u.read d.target = .ok d.octets ∧
      u.find? place = none := by
  obtain ⟨q, hentry, hwrote⟩ := h
  have hkeeps := hwrote.keepsDirectories
  have hlocated := locate_of_entryPlace hentry hkeeps
  have hne : q ≠ place := hready.target_ne (locate_of_entryPlace hentry ⟨rfl, fun _ => id⟩)
  have hfile : u.find? q = some (.file d.octets) := by rw [hwrote.nodes, if_pos rfl]
  refine ⟨⟨hmade.keeps.trans hkeeps, ?_, ?_⟩, read_of_file hlocated hfile, ?_⟩
  · rintro _ ⟨⟩ hdraft
    exact hne (Except.ok.inj (hlocated.symm.trans hdraft))
  · intro other _
    by_cases heq : other = q
    · subst heq
      exact Or.inr ⟨hlocated, hfile⟩
    · exact Or.inl (hmade.kept hkeeps (by rw [hwrote.nodes, if_neg heq]))
  · rw [hwrote.nodes, if_neg hne.symm, hready.free]

theorem atomic_of_unmade (hmade : MadeWay target.parent t b) (e : Fault) :
    Atomic t fails target octets ⟨[b], .error e⟩ none := by
  have hkept (place : List String) : Kept target.parent t b place := hmade.made place
  refine ⟨nofun, nofun, ?_, nofun, fun _ _ => ⟨fun place _ => hkept place, nofun⟩⟩
  intro u hu
  rw [List.mem_singleton.mp hu]
  exact ⟨hmade.keeps, nofun, fun place _ => Or.inl (hkept place)⟩

/-- Where the draft was made, every moment of the run is one of the trees beside the one that was
found, or comes after the renaming. -/
theorem atomic_of_made (hmade : MadeWay d.target.parent t b) (hready : d.Ready b dir place)
    (hcreate : d.attempt fails .create b = .ok u) :
    Atomic t fails d.target d.octets
      ⟨b :: (d.run fails WriteStep.all b).trees, (d.run fails WriteStep.all b).result⟩
      (some place) := by
  obtain ⟨hcreated, hleads⟩ := Draft.leads_of_created hready hcreate
  constructor
  · rintro _ ⟨⟩
    obtain ⟨tag, hplace⟩ := hready.place_eq
    exact ⟨hmade.free hready.free, dir, tag, hplace⟩
  · rintro _ ⟨⟩
    refine ⟨u, List.mem_cons_of_mem _ ?_, by rw [hcreated.nodes, if_pos rfl]; rfl⟩
    rw [WriteStep.all, Draft.run, hcreate]
    exact List.mem_cons_self
  · intro v hv
    rcases List.mem_cons.mp hv with rfl | hv
    · exact (Draft.beside_rfl hready.free).untorn hready hmade
    · rcases hleads.moments v hv with ⟨o, hbeside⟩ | hrenamed
      · exact hbeside.untorn hready hmade
      · exact (hrenamed.untorn hready hmade).1
  · intro hresult
    rw [WriteRun.last_cons]
    obtain ⟨-, hread, hclean⟩ := (hleads.returned hresult).untorn hready hmade
    refine ⟨hread, ?_⟩
    rintro _ ⟨⟩
    exact hclean
  · intro e hresult
    rw [WriteRun.last_cons]
    obtain ⟨o, hbeside, ho⟩ := hleads.raised e hresult
    refine ⟨fun other hother => hbeside.kept hready hmade fun heq => hother (heq ▸ rfl), ?_⟩
    rintro _ ⟨⟩
    rw [hbeside.nodes, if_pos rfl, Option.map_eq_none_iff, ho]

end Whole

/-- For every tree, target and text, and whichever of the calls fail: at each moment the file at the
target is the old one or the new one, and no other place changes but the draft's and those of
directories that were missing on the way. A write that returns has put the file and leaves no draft;
one that fails leaves all as it was, the draft being removed unless closing it failed, too. -/
theorem atomicWrite_atomic (t : FileTree) (fails : WriteStep → Bool) (target : FilePath)
    (octets : List UInt8) :
    ∃ draft, Atomic t fails target octets (t.atomicWrite fails target octets) draft := by
  unfold FileTree.atomicWrite
  cases hdirs : t.makeDirs target.parent with
  | mk r b =>
    have hmade := madeWay_makeDirs hdirs
    cases r with
    | error e => exact ⟨none, atomic_of_unmade hmade e⟩
    | ok =>
      obtain ⟨dir, hdir⟩ := makeDirs_returned hdirs
      dsimp only
      cases hpath : Draft.freshPath b target with
      | error e => exact ⟨none, atomic_of_unmade hmade e⟩
      | ok path =>
        obtain ⟨i, hnamed, hnew⟩ := Draft.freshPath_returned hpath
        dsimp only
        cases hcreate : Draft.attempt ⟨path, target, octets⟩ fails .create b with
        | error e =>
          rw [Draft.run_of_uncreated hcreate]
          exact ⟨none, atomic_of_unmade hmade e⟩
        | ok u =>
          obtain ⟨place, hentry, -⟩ :=
            Draft.putFile_eq_ok.mp (Draft.perform_of_attempt hcreate)
          have hready : Draft.Ready ⟨path, target, octets⟩ b dir place :=
            ⟨⟨i, hnamed⟩, hdir, hentry, hnew place hentry⟩
          exact ⟨some place, atomic_of_made hmade hready hcreate⟩

/-- The text cannot be brought to the disk, and the draft cannot be closed either: it stays. -/
theorem draft_stranded :
    let t := FileTree.empty ["work"]
    let fails : WriteStep → Bool := fun step => step = .flush || step = .close
    let run := t.atomicWrite fails (.ofString "f.ts") [104, 105]
    let draft := ["work", ".f.ts.00000000.tmp"]
    run.result = .error (.system .failed) ∧ t.find? draft = none ∧
      (run.last t).find? draft = some (.file []) := by
  decide +kernel

end ClientCompiler
