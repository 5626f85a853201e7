import ClientCompiler.Emission.FileName
import ClientCompiler.Proofs.Text.Trimming

/-!
Names of module files are safe, whatever the module is called, and a safe name stays as it is.
-/

namespace ClientCompiler

namespace FileName

/-- A name for a file on any file system, which needs no change. -/
structure Safe (name : String) : Prop where
  nonempty : name ≠ ""
  signs : ∀ c ∈ ['/', '\\', ':', '*', '?', '"', '<', '>', '|'], c ∉ name.toList
  trimmed : Text.trim name.toList = name.toList
  fixed : ofModule name = name

variable {s : List Char}

theorem isUnsafe_eq_true {c : Char} :
    isUnsafe c = true ↔ c ∈ ['/', '\\', ':', '*', '?', '"', '<', '>', '|'] := by
  simp only [isUnsafe, Bool.or_eq_true, decide_eq_true_eq, List.mem_cons, List.not_mem_nil,
    or_false]
  tauto

theorem isUnsafe_of_mem_replaceRuns {c : Char} :
    ∀ {inRun : Bool} {s : List Char}, c ∈ replaceRuns inRun s → isUnsafe c = false := by
  intro inRun s
  induction s generalizing inRun with
  | nil => exact fun h => absurd h List.not_mem_nil
  | cons d s ih =>
    intro h
    rw [replaceRuns] at h
    by_cases hd : isUnsafe d = true
    · rw [if_pos hd] at h
      cases inRun with
      | true => exact ih h
      | false =>
        rcases List.mem_cons.mp h with rfl | h
        · decide
        · exact ih h
    · rw [if_neg hd] at h
      rcases List.mem_cons.mp h with rfl | h
      · simpa using hd
      · exact ih h

theorem replaceRuns_of_clean (h : ∀ c ∈ s, isUnsafe c = false) (inRun : Bool) :
    replaceRuns inRun s = s := by
  induction s generalizing inRun with
  | nil => rfl
  | cons c s ih =>
    obtain ⟨hc, hs⟩ := List.forall_mem_cons.mp h
    rw [replaceRuns, if_neg (by simp [hc]), ih hs]

theorem safe_of_clean {name : String} (hne : name ≠ "")
    (hclean : ∀ c ∈ name.toList, isUnsafe c = false)
    (htrimmed : Text.trim name.toList = name.toList) : Safe name := by
  refine ⟨hne, ?_, htrimmed, ?_⟩
  · intro c hc hmem
    have hunsafe := isUnsafe_eq_true.mpr hc
    rw [hclean c hmem] at hunsafe
    cases hunsafe
  · have hempty : name.toList.isEmpty = false := by simpa using hne
    unfold ofModule
    dsimp only
    rw [replaceRuns_of_clean hclean, htrimmed, hempty]
    exact String.ofList_toList

/-- Cleaning leaves no unsafe sign, and trimming brings none back. -/
theorem safe_ofModule (name : String) : Safe (ofModule name) := by
  unfold ofModule
  dsimp only
  split
  · have hclean : "default".toList.all (fun c => !isUnsafe c) = true := by decide
    exact safe_of_clean (by decide) (by simpa only [List.all_eq_true, Bool.not_eq_true'] using hclean)
      (by decide)
  · next hempty =>
    refine safe_of_clean ?_ ?_ ?_
    · intro heq
      refine hempty ?_
      rw [List.isEmpty_iff, ← String.toList_ofList (l := Text.trim _), heq]
      rfl
    · intro c hc
      rw [String.toList_ofList] at hc
      exact isUnsafe_of_mem_replaceRuns (Text.mem_of_mem_trim hc)
    · rw [String.toList_ofList, Text.trim_trim]

end FileName
end ClientCompiler
