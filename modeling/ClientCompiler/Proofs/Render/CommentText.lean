import ClientCompiler.Proofs.Render.Comments
import ClientCompiler.Proofs.Text.Words

/-!
What a text is inside a comment. Its words stand on one line with single spaces between them, each
with a backslash in every closing sign, so that no sign is left and there is nothing more to change.
-/

namespace ClientCompiler.Render

open Text

/-- A backslash is put inside every closing sign, and all else stays. -/
inductive Escaped : List Char → List Char → Prop where
  | plain {s : List Char} (h : ¬ closingSign <:+: s) : Escaped s s
  | sign {s t r : List Char} (h : ¬ closingSign <:+: s) (ht : Escaped t r) :
      Escaped (s ++ '*' :: '/' :: t) (s ++ '*' :: '\\' :: '/' :: r)

structure Flattened (s r : List Char) : Prop where
  unclosed : ¬ closingSign <:+: r
  blanks : ∀ c ∈ r, isBlank c = true → c = ' '
  oneLine : ∀ c ∈ r, isLineEnd c = false
  single : ∀ a b, r ≠ a ++ ' ' :: ' ' :: b
  leading : r.head? ≠ some ' '
  trailing : r.getLast? ≠ some ' '
  words : ∃ ws rs, Spaced s ws ∧ Spaced r rs ∧ List.Forall₂ Escaped ws rs
  again : docComment r = r

variable {s w : List Char} {c : Char} {ws : List (List Char)}

/-! ## Escapes -/

theorem Escaped.cons {t r : List Char} (h : Escaped t r) (hc : ¬ closingSign <+: c :: t) :
    Escaped (c :: t) (c :: r) := by
  cases h with
  | plain h =>
    refine .plain ?_
    rw [List.infix_cons_iff, not_or]
    exact ⟨hc, h⟩
  | @sign s t r h ht =>
    refine .sign (s := c :: s) ?_ ht
    rw [List.infix_cons_iff, not_or]
    refine ⟨fun hstart => hc ?_, h⟩
    exact hstart.trans (List.prefix_append (c :: s) _)

theorem escaped_escapeClosing (s : List Char) : Escaped s (escapeClosing s) := by
  fun_induction escapeClosing s with
  | case1 cs ih => exact .sign (s := []) (by decide) ih
  | case2 c cs hescaped ih =>
    refine ih.cons fun hstart => ?_
    obtain ⟨rfl, hnext⟩ := closingSign_starts.mp hstart
    obtain ⟨rest, rfl⟩ := List.head?_eq_some_iff.mp hnext
    exact hescaped rest rfl rfl
  | case3 => exact .plain (by decide)

theorem escapeClosing_of_unclosed (h : ¬ closingSign <:+: s) : escapeClosing s = s := by
  fun_induction escapeClosing s with
  | case1 cs ih => exact absurd ⟨[], cs, rfl⟩ h
  | case2 c cs hescaped ih =>
    rw [List.infix_cons_iff, not_or] at h
    rw [ih h.2]
  | case3 => rfl

/-- A character of no closing sign keeps the escapes around it apart. -/
theorem escapeClosing_separated (hstar : c ≠ '*') (hslash : c ≠ '/') (s t : List Char) :
    escapeClosing (s ++ c :: t) = escapeClosing s ++ c :: escapeClosing t := by
  fun_induction escapeClosing s with
  | case1 cs ih => simp [escapeClosing, ih]
  | case2 d cs hescaped ih =>
    rw [List.cons_append, escapeClosing, ih, List.cons_append]
    rintro rest rfl hrest
    cases cs with
    | nil => exact hslash (List.cons.inj hrest).1
    | cons e cs =>
      obtain ⟨rfl, -⟩ := List.cons.inj hrest
      exact hescaped cs rfl rfl
  | case3 =>
    rw [List.nil_append, List.nil_append, escapeClosing]
    rintro rest rfl -
    exact hstar rfl

theorem escapeClosing_intercalate (ws : List (List Char)) :
    escapeClosing (List.intercalate [' '] ws) =
      List.intercalate [' '] (ws.map escapeClosing) := by
  induction ws with
  | nil => rfl
  | cons w ws ih =>
    cases ws with
    | nil => simp [List.intercalate]
    | cons v ws =>
      rw [List.map_cons, List.map_cons, intercalate_cons_cons, intercalate_cons_cons,
        List.append_assoc, List.append_assoc, List.singleton_append, List.singleton_append,
        escapeClosing_separated (by decide) (by decide), ih, List.map_cons]

theorem mem_escapeClosing (h : c ∈ escapeClosing s) : c ∈ s ∨ c = '\\' := by
  fun_induction escapeClosing s with
  | case1 cs ih =>
    simp only [List.mem_cons] at h ⊢
    rcases h with h | h | h | h
    · exact .inl (.inl h)
    · exact .inr h
    · exact .inl (.inr (.inl h))
    · exact (ih h).imp_left fun hcs => .inr (.inr hcs)
  | case2 d cs hescaped ih =>
    rcases List.mem_cons.mp h with rfl | h
    · exact .inl List.mem_cons_self
    · exact (ih h).imp_left (List.mem_cons_of_mem d)
  | case3 => cases h

theorem isWord_escapeClosing (h : IsWord w) : IsWord (escapeClosing w) := by
  refine ⟨fun hnil => h.filled ?_, fun c hc => ?_⟩
  · have hhead := head?_escapeClosing w
    rw [hnil] at hhead
    exact List.head?_eq_none_iff.mp hhead.symm
  · rcases mem_escapeClosing hc with hc | rfl
    · exact h.solid c hc
    · decide

/-! ## Comments -/

def commentWords (s : List Char) : List (List Char) := (Text.words s).map escapeClosing

theorem isWord_of_mem_commentWords (h : w ∈ commentWords s) : IsWord w := by
  obtain ⟨v, hv, rfl⟩ := List.mem_map.mp h
  exact isWord_escapeClosing (isWord_of_mem_words hv)

theorem docComment_eq (s : List Char) : docComment s = List.intercalate [' '] (commentWords s) := by
  rw [docComment, joined_eq_intercalate, escapeClosing_intercalate, commentWords]

theorem spaced_docComment (s : List Char) : Spaced (docComment s) (commentWords s) := by
  rw [docComment_eq]
  exact spaced_intercalate fun w hw => isWord_of_mem_commentWords hw

theorem docComment_docComment (s : List Char) : docComment (docComment s) = docComment s := by
  have hwords : Value.joined [' '] (Text.words (docComment s)) = docComment s := by
    rw [words_of_spaced (spaced_docComment s), joined_eq_intercalate, docComment_eq]
  rw [docComment, hwords, escapeClosing_of_unclosed (closingSign_docComment s)]

theorem blank_of_mem_docComment (hc : c ∈ docComment s) (hblank : isBlank c = true) : c = ' ' := by
  rw [docComment_eq] at hc
  rcases of_mem_intercalate hc with hspace | ⟨w, hw, hcw⟩
  · exact List.mem_singleton.mp hspace
  · rw [(isWord_of_mem_commentWords hw).solid c hcw] at hblank
    cases hblank

theorem isBlank_of_isLineEnd (h : isLineEnd c = true) : isBlank c = true := by
  unfold isLineEnd at h
  unfold isBlank
  grind

theorem docComment_ne_of_empty_piece (hs : w ≠ []) (hempty : [] ∈ splitOn ' ' w) :
    docComment s ≠ w := by
  rw [docComment_eq]
  exact ne_intercalate_of_empty_piece (fun _ => isWord_of_mem_commentWords) hs hempty

/-- The comment text of every text is its words, escaped, on one line. -/
theorem docComment_flattened (s : List Char) : Flattened s (docComment s) where
  unclosed := closingSign_docComment s
  blanks _ := blank_of_mem_docComment
  oneLine c hc := by
    by_contra hend
    have hend : isLineEnd c = true := by simpa using hend
    obtain rfl := blank_of_mem_docComment hc (isBlank_of_isLineEnd hend)
    exact absurd hend (by decide)
  single a b := docComment_ne_of_empty_piece (by simp) (by simp [splitOn_join, splitOn])
  leading := by
    rw [Ne, List.head?_eq_some_iff]
    rintro ⟨b, hb⟩
    exact docComment_ne_of_empty_piece (by simp) (by simp [splitOn]) hb
  trailing := by
    rw [Ne, List.getLast?_eq_some_iff]
    rintro ⟨a, ha⟩
    exact docComment_ne_of_empty_piece (by simp) (by simp [splitOn_join, splitOn]) ha
  words := by
    refine ⟨Text.words s, commentWords s, spaced_iff.mpr rfl, spaced_docComment s, ?_⟩
    rw [commentWords, List.forall₂_map_right_iff]
    exact List.forall₂_same.mpr fun w _ => escaped_escapeClosing w
  again := docComment_docComment s

example : docComment " a*/\u2028 **//b\t*".toList = "a*\\/ **\\//b *".toList := by decide

end ClientCompiler.Render
