import ClientCompiler.Proofs.Files.Tree

/-!
The directories on the way to a path. Making them changes nothing else, also where the call fails
half-way and leaves those it has made.
-/

namespace ClientCompiler

open FileTree

structure FilePath.Above (q p : FilePath) : Prop where
  slashes : q.slashes = p.slashes
  names : q.names <+: p.names

namespace FilePath

theorem above_rfl (p : FilePath) : Above p p := ⟨rfl, List.prefix_rfl⟩

theorem above_child (p : FilePath) (name : String) : Above p (p.child name) :=
  ⟨rfl, List.prefix_append p.names [name]⟩

theorem Above.trans {p q r : FilePath} (h : Above p q) (h' : Above q r) : Above p r :=
  ⟨h.slashes.trans h'.slashes, h.names.trans h'.names⟩

end FilePath

/-- Directories were made on the way to a path, and nothing else has changed. -/
structure FileTree.MadeWay (p : FilePath) (t t' : FileTree) : Prop where
  keeps : KeepsDirectories t t'
  made : ∀ place, t'.find? place ≠ t.find? place → t.find? place = none ∧
    t'.find? place = some .directory ∧ ∃ q : FilePath, q.Above p ∧ t'.locate q = .ok place

section Ways

variable {t t' u : FileTree} {p q : FilePath} {r : Except Fault Unit}

theorem madeWay_rfl (p : FilePath) (t : FileTree) : MadeWay p t t :=
  ⟨⟨rfl, fun _ => id⟩, fun _ h => absurd rfl h⟩

theorem FileTree.MadeWay.up (h : MadeWay p t t') (hp : p.Above q) : MadeWay q t t' := by
  refine ⟨h.keeps, ?_⟩
  intro place hplace
  obtain ⟨hnew, hmade, r, hr, hlocated⟩ := h.made place hplace
  exact ⟨hnew, hmade, r, hr.trans hp, hlocated⟩

theorem FileTree.MadeWay.trans (h : MadeWay p t u) (h' : MadeWay p u t') : MadeWay p t t' := by
  refine ⟨h.keeps.trans h'.keeps, ?_⟩
  intro place hplace
  by_cases hu : u.find? place = t.find? place
  · obtain ⟨hnew, hmade⟩ := h'.made place (by rw [hu]; exact hplace)
    exact ⟨hu ▸ hnew, hmade⟩
  · obtain ⟨hnew, hmade, q, hq, hlocated⟩ := h.made place hu
    exact ⟨hnew, h'.keeps.directories place hmade, q, hq, h'.keeps.locate hlocated⟩

theorem makeDirHere_failed {e : Fault} (h : t.makeDirHere p = (.error e, t')) : t' = t := by
  unfold makeDirHere at h
  split at h
  · cases h
  · split at h
    · cases h
    · exact (Prod.mk.inj h).2.symm
  · exact (Prod.mk.inj h).2.symm

theorem madeWay_makeDirHere (h : t.makeDirHere p = (r, t')) : MadeWay p t t' := by
  cases r with
  | error e =>
    obtain rfl := makeDirHere_failed h
    exact madeWay_rfl p t'
  | ok =>
    rcases makeDirHere_cases h with ⟨-, rfl⟩ | ⟨place, hentry, hnew, rfl⟩
    · exact madeWay_rfl p t'
    · have hne := ne_nil_of_entryPlace hentry
      have hkeeps := keepsDirectories_put hne (Or.inr rfl) (t := t)
      refine ⟨hkeeps, ?_⟩
      intro other hother
      rw [find?_put hne] at hother ⊢
      by_cases heq : other = place
      · rw [if_pos heq, heq]
        exact ⟨hnew, rfl, p, FilePath.above_rfl p, locate_of_entryPlace hentry hkeeps⟩
      · rw [if_neg heq] at hother
        exact absurd rfl hother

/-- The induction is on the names of the path: the directories above are made first. -/
theorem madeWay_makeDirs (h : t.makeDirs p = (r, t')) : MadeWay p t t' := by
  induction hlength : p.names.length generalizing p t' r with
  | zero =>
    rw [makeDirs_of_nil (List.length_eq_zero_iff.mp hlength)] at h
    exact madeWay_makeDirHere h
  | succ n ih =>
    rcases nil_or_child p with hnil | ⟨q, name, rfl⟩
    · rw [hnil] at hlength
      cases hlength
    · have hq : q.names.length = n := by simpa [FilePath.child] using hlength
      have habove := FilePath.above_child q name
      rw [makeDirs_child] at h
      split at h
      · split at h
        · next u hup => exact ((ih hup hq).up habove).trans (madeWay_makeDirHere h)
        · next e u hup =>
          obtain rfl := (Prod.mk.inj h).2
          exact (ih hup hq).up habove
      · exact madeWay_makeDirHere h

end Ways
end ClientCompiler
