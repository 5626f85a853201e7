import ClientCompiler.Proofs.Files.Path
import ClientCompiler.Proofs.Text.Trimming
import ClientCompiler.Value.Text

/-!
The words of a text. A text is read in one way as words with blanks around and between them, and
that is how it is cut; words with single spaces between them are found again.
-/

namespace ClientCompiler.Text

structure IsWord (w : List Char) : Prop where
  filled : w ≠ []
  solid : ∀ c ∈ w, isBlank c = false

/-- A text is some words in order, with blanks between any two of them, in front and at the end. -/
inductive Spaced : List Char → List (List Char) → Prop where
  | blank {a : List Char} (ha : AllBlank a) : Spaced a []
  | last {a w : List Char} (ha : AllBlank a) (hw : IsWord w) : Spaced (a ++ w) [w]
  | word {a w s : List Char} {c : Char} {ws : List (List Char)} (ha : AllBlank a) (hw : IsWord w)
      (hc : isBlank c = true) (h : Spaced s ws) : Spaced (a ++ w ++ c :: s) (w :: ws)

variable {s w p : List Char} {c : Char} {ws : List (List Char)}

theorem wordsAfter_solid (hw : ∀ c ∈ w, isBlank c = false) (p s : List Char) :
    wordsAfter p (w ++ s) = wordsAfter (p ++ w) s := by
  induction w generalizing p with
  | nil => rw [List.nil_append, List.append_nil]
  | cons c w ih =>
    obtain ⟨hc, hw⟩ := List.forall_mem_cons.mp hw
    rw [List.cons_append, wordsAfter, hc, if_neg (by decide), ih hw, List.append_assoc,
      List.singleton_append]

theorem wordsAfter_filled (hp : p ≠ []) : wordsAfter p [] = [p] := by
  rw [wordsAfter, if_neg (by simpa using hp)]

theorem wordsAfter_blank (hp : p ≠ []) (hc : isBlank c = true) (s : List Char) :
    wordsAfter p (c :: s) = p :: words s := by
  rw [wordsAfter, if_pos hc, if_neg (by simpa using hp), words]

theorem words_blank_append {a : List Char} (ha : AllBlank a) (s : List Char) :
    words (a ++ s) = words s := by
  unfold words
  induction a with
  | nil => rfl
  | cons c a ih =>
    obtain ⟨hc, ha⟩ := List.forall_mem_cons.mp ha
    rw [List.cons_append, wordsAfter, if_pos hc, List.isEmpty_nil, if_pos rfl]
    exact ih ha

theorem words_of_spaced (h : Spaced s ws) : words s = ws := by
  induction h with
  | @blank a ha =>
    have hall : words (a ++ []) = words [] := words_blank_append ha []
    rwa [List.append_nil] at hall
  | @last a w ha hw =>
    have hread : wordsAfter [] (w ++ []) = wordsAfter ([] ++ w) [] := wordsAfter_solid hw.solid [] []
    rw [List.append_nil, List.nil_append] at hread
    rw [words_blank_append ha, words, hread, wordsAfter_filled hw.filled]
  | @word a w s c ws ha hw hc _ ih =>
    rw [List.append_assoc, words_blank_append ha, words, wordsAfter_solid hw.solid,
      List.nil_append, wordsAfter_blank hw.filled hc, ih]

/-- The induction is on the text that is left; what is pending is the start of a word. -/
theorem spaced_wordsAfter (s : List Char) :
    Spaced s (words s) ∧ ∀ p, IsWord p → Spaced (p ++ s) (wordsAfter p s) := by
  induction s with
  | nil =>
    refine ⟨.blank nofun, fun p hp => ?_⟩
    rw [wordsAfter_filled hp.filled, List.append_nil]
    exact .last (a := []) nofun hp
  | cons c s ih =>
    obtain ⟨hwords, hpending⟩ := ih
    by_cases hc : isBlank c = true
    · refine ⟨?_, fun p hp => ?_⟩
      · rw [show words (c :: s) = words s from words_blank_append (a := [c]) (by simpa [AllBlank]) s]
        generalize words s = ws at hwords
        have hcons {a : List Char} (ha : AllBlank a) : AllBlank (c :: a) :=
          List.forall_mem_cons.mpr ⟨hc, ha⟩
        cases hwords with
        | blank ha => exact .blank (hcons ha)
        | last ha hw => exact .last (hcons ha) hw
        | word ha hw hd h => exact .word (hcons ha) hw hd h
      · rw [wordsAfter_blank hp.filled hc]
        exact .word (a := []) nofun hp hc hwords
    · have hc : isBlank c = false := by simpa using hc
      have hgrown (p : List Char) (hp : ∀ d ∈ p, isBlank d = false) : IsWord (p ++ [c]) := by
        refine ⟨by simp, fun d hd => ?_⟩
        rcases List.mem_append.mp hd with hd | hd
        · exact hp d hd
        · rw [List.mem_singleton.mp hd, hc]
      have hgoesOn (p : List Char) (hp : ∀ d ∈ p, isBlank d = false) :
          Spaced (p ++ c :: s) (wordsAfter p (c :: s)) := by
        have hnext := hpending (p ++ [c]) (hgrown p hp)
        rw [wordsAfter, hc, if_neg (by decide)]
        rwa [List.append_assoc, List.singleton_append] at hnext
      exact ⟨hgoesOn [] nofun, fun p hp => hgoesOn p hp.solid⟩

theorem spaced_iff : Spaced s ws ↔ words s = ws := by
  refine ⟨words_of_spaced, ?_⟩
  rintro rfl
  exact (spaced_wordsAfter s).1

theorem isWord_of_spaced (h : Spaced s ws) : ∀ w ∈ ws, IsWord w := by
  induction h with
  | blank _ => nofun
  | last _ hw => simpa using hw
  | word _ hw _ _ ih => exact List.forall_mem_cons.mpr ⟨hw, ih⟩

theorem isWord_of_mem_words (h : w ∈ words s) : IsWord w :=
  isWord_of_spaced (spaced_iff.mpr rfl) w h

/-! ## Joined pieces -/

theorem joined_eq_intercalate (sep : List Char) (ps : List (List Char)) :
    Value.joined sep ps = List.intercalate sep ps := by
  induction ps with
  | nil => rfl
  | cons p ps ih =>
    cases ps with
    | nil => simp [Value.joined, List.intercalate]
    | cons q ps => rw [Value.joined, ih, intercalate_cons_cons]

theorem mem_intercalate {sep : List Char} {ps : List (List Char)} (hp : p ∈ ps) (hc : c ∈ p) :
    c ∈ List.intercalate sep ps := by
  induction ps with
  | nil => cases hp
  | cons q ps ih =>
    cases ps with
    | nil =>
      obtain rfl := List.mem_singleton.mp hp
      simpa [List.intercalate] using hc
    | cons r ps =>
      rw [intercalate_cons_cons]
      rcases List.mem_cons.mp hp with rfl | hp
      · exact List.mem_append_left _ (List.mem_append_left _ hc)
      · exact List.mem_append_right _ (ih hp)

theorem of_mem_intercalate {sep : List Char} {ps : List (List Char)}
    (hc : c ∈ List.intercalate sep ps) : c ∈ sep ∨ ∃ p ∈ ps, c ∈ p := by
  induction ps with
  | nil => cases hc
  | cons p ps ih =>
    cases ps with
    | nil => exact .inr ⟨p, List.mem_cons_self, by simpa [List.intercalate] using hc⟩
    | cons q ps =>
      rw [intercalate_cons_cons, List.mem_append, List.mem_append] at hc
      rcases hc with (hc | hc) | hc
      · exact .inr ⟨p, List.mem_cons_self, hc⟩
      · exact .inl hc
      · exact (ih hc).imp_right fun ⟨r, hr, hcr⟩ => ⟨r, List.mem_cons_of_mem p hr, hcr⟩

theorem splitOn_ended {sep : Char} {ps : List (List Char)} (h : ∀ p ∈ ps, sep ∉ p) :
    splitOn sep (ps.flatMap fun p => p ++ [sep]) = ps ++ [[]] := by
  induction ps with
  | nil => rfl
  | cons p ps ih =>
    obtain ⟨hp, hps⟩ := List.forall_mem_cons.mp h
    rw [List.flatMap_cons, List.append_assoc, List.singleton_append, splitOn_append hp, ih hps,
      List.cons_append]

/-! ## Single spaces -/

theorem IsWord.space_not_mem (h : IsWord w) : ' ' ∉ w :=
  fun hmem => absurd (h.solid ' ' hmem) (by decide)

theorem spaced_intercalate (h : ∀ w ∈ ws, IsWord w) : Spaced (List.intercalate [' '] ws) ws := by
  induction ws with
  | nil => exact .blank nofun
  | cons w ws ih =>
    obtain ⟨hw, hws⟩ := List.forall_mem_cons.mp h
    cases ws with
    | nil =>
      have hone : List.intercalate [' '] [w] = [] ++ w := by simp [List.intercalate]
      rw [hone]
      exact .last nofun hw
    | cons v ws =>
      rw [intercalate_cons_cons, List.append_assoc, List.singleton_append, ← List.nil_append w]
      exact .word nofun hw (by decide) (ih hws)

/-- Between single spaces nothing is empty, so none is in front, at the end or next to another. -/
theorem ne_intercalate_of_empty_piece (h : ∀ w ∈ ws, IsWord w) (hs : s ≠ [])
    (hempty : [] ∈ splitOn ' ' s) : List.intercalate [' '] ws ≠ s := by
  rintro rfl
  have hne : ws ≠ [] := by
    rintro rfl
    exact hs rfl
  rw [splitOn_intercalate hne fun w hw => (h w hw).space_not_mem] at hempty
  exact (h [] hempty).filled rfl

end ClientCompiler.Text
