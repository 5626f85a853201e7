import ClientCompiler.Proofs.Text.Words
import ClientCompiler.Proofs.Types.Reading

/-!
Splitting into arguments loses nothing but a final comma. The pieces between the commas outside all
brackets make up the text again; a piece is split no further, and pieces that are whole and come
back to depth zero are found again between commas. Surplus closing brackets leave the depth at zero.
-/

namespace ClientCompiler

namespace Text

theorem exists_trimmed (s : List Char) : ∃ a b, AllBlank a ∧ AllBlank b ∧ s = a ++ trim s ++ b := by
  refine ⟨s.takeWhile isBlank, (trimLeft s).rtakeWhile isBlank, fun c => List.mem_takeWhile_imp,
    fun c => List.mem_rtakeWhile_imp, ?_⟩
  have hright : trim s ++ (trimLeft s).rtakeWhile isBlank = trimLeft s :=
    List.rdropWhile_append_rtakeWhile
  rw [List.append_assoc, hright]
  exact List.takeWhile_append_dropWhile.symm

theorem trim_of_solid {s : List Char} (h : ∀ c ∈ s, isBlank c = false) : trim s = s := by
  obtain ⟨a, b, ha, hb, hs⟩ := exists_trimmed s
  have hnone {r : List Char} (hr : AllBlank r) (hsub : ∀ c ∈ r, c ∈ s) : r = [] := by
    rw [List.eq_nil_iff_forall_not_mem]
    intro c hc
    exact absurd (hr c hc) (by simp [h c (hsub c hc)])
  obtain rfl : a = [] := hnone ha fun c hc => by rw [hs]; simp [hc]
  obtain rfl : b = [] := hnone hb fun c hc => by rw [hs]; simp [hc]
  simpa using hs.symm

end Text

namespace Spelling

def Whole (s : List Char) : Prop := ∀ a b, s = a ++ ',' :: b → depth 0 a ≠ 0

def EndsSeparated (s a : List Char) : Prop := s = a ++ [','] ∧ depth 0 a = 0

variable {d : Nat} {s p q : List Char} {ps : List (List Char)}

/-! ## Joining the pieces -/

theorem intercalate_consHead (c : Char) (h : ps ≠ []) :
    List.intercalate [','] (consHead c ps) = c :: List.intercalate [','] ps := by
  cases ps with
  | nil => exact absurd rfl h
  | cons p ps =>
    cases ps with
    | nil => simp [consHead, List.intercalate]
    | cons q ps =>
      rw [consHead, Text.intercalate_cons_cons, Text.intercalate_cons_cons]
      simp

theorem intercalate_pieces (d : Nat) (s : List Char) : List.intercalate [','] (pieces d s) = s := by
  induction s generalizing d with
  | nil => rfl
  | cons c s ih =>
    by_cases hc : c = ',' ∧ d = 0
    · obtain ⟨rfl, rfl⟩ := hc
      have hjoined := ih 0
      obtain ⟨p, ps, hpieces⟩ := List.exists_cons_of_ne_nil (pieces_ne_nil 0 s)
      rw [hpieces] at hjoined
      rw [pieces_comma, hpieces, Text.intercalate_cons_cons, hjoined]
      rfl
    · rw [pieces_cons_of_not_separator hc, intercalate_consHead c (pieces_ne_nil _ s), ih]

/-- Only the end of a text, or a separating comma there, leaves the last piece empty. -/
theorem nil_or_separated_of_last (h : (pieces d s).getLast? = some []) :
    s = [] ∨ ∃ a, s = a ++ [','] ∧ depth d a = 0 := by
  induction s generalizing d with
  | nil => exact .inl rfl
  | cons c s ih =>
    right
    by_cases hc : c = ',' ∧ d = 0
    · obtain ⟨rfl, rfl⟩ := hc
      obtain ⟨p, ps, hpieces⟩ := List.exists_cons_of_ne_nil (pieces_ne_nil 0 s)
      rw [pieces_comma, hpieces, List.getLast?_cons_cons, ← hpieces] at h
      rcases ih h with rfl | ⟨a, rfl, ha⟩
      · exact ⟨[], rfl, rfl⟩
      · exact ⟨',' :: a, rfl, ha⟩
    · rw [pieces_cons_of_not_separator hc] at h
      cases hpieces : pieces (depthAfter d c) s with
      | nil => exact absurd hpieces (pieces_ne_nil _ s)
      | cons p ps =>
        rw [hpieces, consHead] at h
        cases ps with
        | nil => cases h
        | cons q ps =>
          rw [List.getLast?_cons_cons, ← List.getLast?_cons_cons (a := p), ← hpieces] at h
          rcases ih h with rfl | ⟨a, rfl, ha⟩
          · cases hpieces
          · exact ⟨c :: a, rfl, ha⟩

theorem dropEmptyLast_concat_nil (ps : List (List Char)) : dropEmptyLast (ps ++ [[]]) = ps := by
  induction ps with
  | nil => rfl
  | cons p ps ih =>
    cases ps with
    | nil => rfl
    | cons q ps => rw [List.cons_append, List.cons_append, dropEmptyLast, ← List.cons_append, ih]

theorem intercalate_dropEmptyLast (h : ∀ a, ¬ EndsSeparated s a) :
    List.intercalate [','] (dropEmptyLast (pieces 0 s)) = s := by
  by_cases hlast : (pieces 0 s).getLast? = some []
  · rcases nil_or_separated_of_last hlast with rfl | ⟨a, hs, ha⟩
    · rfl
    · exact absurd ⟨hs, ha⟩ (h a)
  · rw [dropEmptyLast_of_last hlast, intercalate_pieces]

theorem intercalate_of_endsSeparated {a : List Char} (h : EndsSeparated s a) :
    List.intercalate [','] (dropEmptyLast (pieces 0 s)) = a := by
  obtain ⟨rfl, ha⟩ := h
  rw [pieces_separator ha, show pieces 0 [] = [[]] from rfl, dropEmptyLast_concat_nil,
    intercalate_pieces]

theorem arguments_of_solid (h : ∀ c ∈ s, Text.isBlank c = false) :
    arguments s = dropEmptyLast (pieces 0 s) := by
  refine (List.map_congr_left fun p hp => Text.trim_of_solid fun c hc => h c ?_).trans (List.map_id _)
  rw [← intercalate_pieces 0 s]
  exact Text.mem_intercalate (mem_of_mem_dropEmptyLast hp) hc

/-! ## Splitting a piece again -/

/-- A text is one piece at some depth exactly if no comma of it comes back to depth zero. -/
theorem pieces_eq_singleton_iff :
    pieces d s = [s] ↔ ∀ a b, s = a ++ ',' :: b → depth d a ≠ 0 := by
  constructor
  · rintro h a b rfl ha
    have hcount := congrArg List.length h
    have hfirst := List.length_pos_of_ne_nil (pieces_ne_nil d a)
    have hsecond := List.length_pos_of_ne_nil (pieces_ne_nil 0 b)
    rw [pieces_separator ha, List.length_append, List.length_singleton] at hcount
    omega
  · intro h
    induction s generalizing d with
    | nil => rfl
    | cons c s ih =>
      have hc : ¬ (c = ',' ∧ d = 0) := by
        rintro ⟨rfl, rfl⟩
        exact h [] s rfl rfl
      rw [pieces_cons_of_not_separator hc, ih fun a b hs => h (c :: a) b (by rw [hs]; rfl)]
      rfl

theorem whole_iff : Whole s ↔ pieces 0 s = [s] := pieces_eq_singleton_iff.symm

/-- The first piece is whole at the depth where the splitting starts, the others at depth zero. -/
theorem pieces_of_pieces (h : pieces d s = p :: ps) : pieces d p = [p] ∧ ∀ q ∈ ps, Whole q := by
  induction s generalizing d p ps with
  | nil =>
    obtain ⟨rfl, rfl⟩ := List.cons.inj h
    exact ⟨rfl, nofun⟩
  | cons c s ih =>
    by_cases hc : c = ',' ∧ d = 0
    · obtain ⟨rfl, rfl⟩ := hc
      rw [pieces_comma] at h
      obtain ⟨rfl, rfl⟩ := List.cons.inj h
      refine ⟨rfl, ?_⟩
      obtain ⟨q, qs, hpieces⟩ := List.exists_cons_of_ne_nil (pieces_ne_nil 0 s)
      rw [hpieces]
      obtain ⟨hq, hqs⟩ := ih hpieces
      exact List.forall_mem_cons.mpr ⟨whole_iff.mpr hq, hqs⟩
    · rw [pieces_cons_of_not_separator hc] at h
      obtain ⟨q, qs, hpieces⟩ := List.exists_cons_of_ne_nil (pieces_ne_nil (depthAfter d c) s)
      rw [hpieces] at h
      obtain ⟨rfl, rfl⟩ := List.cons.inj h
      obtain ⟨hq, hqs⟩ := ih hpieces
      refine ⟨?_, hqs⟩
      rw [pieces_cons_of_not_separator hc, hq]
      rfl

theorem whole_of_mem_pieces (h : q ∈ pieces 0 s) : Whole q := by
  obtain ⟨p, ps, hpieces⟩ := List.exists_cons_of_ne_nil (pieces_ne_nil 0 s)
  rw [hpieces] at h
  obtain ⟨hp, hps⟩ := pieces_of_pieces hpieces
  rcases List.mem_cons.mp h with rfl | h
  · exact whole_iff.mpr hp
  · exact hps q h

theorem depth_of_blank {a : List Char} (ha : Text.AllBlank a) (d : Nat) : depth d a = d := by
  induction a generalizing d with
  | nil => rfl
  | cons c a ih =>
    obtain ⟨hc, ha⟩ := List.forall_mem_cons.mp ha
    have hopening : c ≠ '<' := by
      rintro rfl
      cases hc
    have hclosing : c ≠ '>' := by
      rintro rfl
      cases hc
    rw [depth_cons, depthAfter, if_neg hopening, if_neg hclosing, ih ha]

theorem Whole.trim (h : Whole q) : Whole (Text.trim q) := by
  obtain ⟨a, b, ha, -, hq⟩ := Text.exists_trimmed q
  intro x y htrim
  have hdepth := h (a ++ x) (y ++ b) (by rw [hq, htrim]; simp)
  rwa [depth_append, depth_of_blank ha] at hdepth

theorem whole_of_mem_arguments (h : p ∈ arguments s) : Whole p := by
  obtain ⟨q, hq, rfl⟩ := List.mem_map.mp h
  exact (whole_of_mem_pieces (mem_of_mem_dropEmptyLast hq)).trim

theorem trim_of_mem_arguments (h : p ∈ arguments s) : Text.trim p = p := by
  obtain ⟨q, -, rfl⟩ := List.mem_map.mp h
  exact Text.trim_trim q

theorem arguments_of_whole (h : Whole p) (hne : p ≠ []) : arguments p = [Text.trim p] := by
  rw [arguments, whole_iff.mp h, dropEmptyLast_of_last (by simpa using hne)]
  rfl

/-! ## Splitting a joined list -/

/-- The induction is on the list: each text comes back to depth zero, where its comma splits. -/
theorem pieces_intercalate (hne : ps ≠ []) (h : ∀ p ∈ ps, Whole p ∧ depth 0 p = 0) :
    pieces 0 (List.intercalate [','] ps) = ps := by
  induction ps with
  | nil => exact absurd rfl hne
  | cons p ps ih =>
    obtain ⟨⟨hwhole, hlevel⟩, hps⟩ := List.forall_mem_cons.mp h
    cases ps with
    | nil =>
      have hone : List.intercalate [','] [p] = p := by simp [List.intercalate]
      rw [hone, whole_iff.mp hwhole]
    | cons q ps =>
      rw [Text.intercalate_cons_cons, List.append_assoc, List.singleton_append,
        pieces_separator hlevel, whole_iff.mp hwhole, ih (List.cons_ne_nil q ps) hps]
      rfl

theorem arguments_intercalate (h : ∀ p ∈ ps, Text.trim p = p ∧ Whole p ∧ depth 0 p = 0)
    (hlast : ps.getLast? ≠ some []) : arguments (List.intercalate [','] ps) = ps := by
  cases ps with
  | nil => rfl
  | cons p rest =>
    rw [arguments, pieces_intercalate (List.cons_ne_nil p rest) fun q hq => (h q hq).2,
      dropEmptyLast_of_last hlast]
    exact (List.map_congr_left fun q hq => (h q hq).1).trans (List.map_id _)

/-- Splitting into arguments and joining with commas undo each other, up to a final comma and the
blanks around arguments. -/
theorem arguments_lossless :
    (∀ s, (∀ c ∈ s, Text.isBlank c = false) →
      (∀ a, EndsSeparated s a → List.intercalate [','] (arguments s) = a) ∧
      ((∀ a, ¬ EndsSeparated s a) → List.intercalate [','] (arguments s) = s)) ∧
    (∀ s, ∀ p ∈ arguments s, Whole p ∧ (p ≠ [] → arguments p = [p])) ∧
    ∀ ps : List (List Char), (∀ p ∈ ps, Text.trim p = p ∧ Whole p ∧ depth 0 p = 0) →
      ps.getLast? ≠ some [] → arguments (List.intercalate [','] ps) = ps := by
  refine ⟨fun s hs => ?_, fun s p hp => ?_, fun ps => arguments_intercalate⟩
  · rw [arguments_of_solid hs]
    exact ⟨fun a => intercalate_of_endsSeparated, intercalate_dropEmptyLast⟩
  · have hwhole : Whole p := whole_of_mem_arguments hp
    refine ⟨hwhole, fun hne => ?_⟩
    rw [arguments_of_whole hwhole hne, trim_of_mem_arguments hp]

/-- A surplus closing bracket, an empty argument and a final comma. -/
theorem arguments_lossless_unbalanced :
    List.intercalate [','] (arguments "Map<K,V>>,,A,".toList) = "Map<K,V>>,,A".toList ∧
      List.intercalate [','] (arguments "List<A,".toList) = "List<A,".toList ∧
      arguments "Map<K,V>>".toList = ["Map<K,V>>".toList] ∧
      arguments "Map<K,V>,,A".toList = ["Map<K,V>".toList, [], "A".toList] := by
  obtain ⟨hjoined, hagain, hfound⟩ := arguments_lossless
  have hopen : ∀ a, ¬ EndsSeparated "List<A,".toList a := by
    rintro a ⟨ha, hdepth⟩
    have hbefore : a = "List<A".toList := (List.append_left_inj [',']).mp ha.symm
    rw [hbefore] at hdepth
    exact absurd hdepth (by decide)
  have hmem : "Map<K,V>>".toList ∈ arguments "Map<K,V>>,,A,".toList := by decide
  have hsolid (s : List Char) (h : s.all (!Text.isBlank ·) = true) :
      ∀ c ∈ s, Text.isBlank c = false := by simpa using h
  refine ⟨(hjoined _ (hsolid _ (by decide))).1 _ ⟨by decide, by decide⟩,
    (hjoined _ (hsolid _ (by decide))).2 hopen, (hagain _ _ hmem).2 (by decide),
    hfound ["Map<K,V>".toList, [], "A".toList] ?_ (by decide)⟩
  intro p hp
  simp only [List.mem_cons, List.not_mem_nil, or_false] at hp
  simp only [whole_iff]
  rcases hp with rfl | rfl | rfl <;> decide

end Spelling

end ClientCompiler
