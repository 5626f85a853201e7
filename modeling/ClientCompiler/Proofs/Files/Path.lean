import ClientCompiler.Document.Source

/-!
A path is read back from its text, and its text names a file. The names that a path is read with are
not empty, are no dots and hold no slash, so that the text between the slashes is the names again.
-/

namespace ClientCompiler

namespace Text

variable {sep : Char} {s : List Char}

theorem splitOn_cons_of_ne {c : Char} (hc : c ≠ sep) {p : List Char} {ps : List (List Char)}
    (h : splitOn sep s = p :: ps) : splitOn sep (c :: s) = (c :: p) :: ps := by
  rw [splitOn, if_neg hc, h]

theorem splitOn_of_not_mem (h : sep ∉ s) : splitOn sep s = [s] := by
  induction s with
  | nil => rfl
  | cons c s ih =>
    obtain ⟨hc, hs⟩ := List.ne_and_not_mem_of_not_mem_cons h
    exact splitOn_cons_of_ne hc.symm (ih hs)

theorem splitOn_ne_nil (s : List Char) : splitOn sep s ≠ [] := by
  cases s with
  | nil => exact List.cons_ne_nil _ _
  | cons c s =>
    rw [splitOn]
    split
    · exact List.cons_ne_nil _ _
    · split
      · exact List.cons_ne_nil _ _
      · exact List.cons_ne_nil _ _

theorem splitOn_join (s r : List Char) :
    splitOn sep (s ++ sep :: r) = splitOn sep s ++ splitOn sep r := by
  induction s with
  | nil => simp [splitOn]
  | cons c s ih =>
    by_cases hc : c = sep
    · rw [List.cons_append, splitOn, if_pos hc, splitOn, if_pos hc, ih, List.cons_append]
    · have hne : splitOn sep s ≠ [] := splitOn_ne_nil s
      obtain ⟨p, ps, hs⟩ := List.exists_cons_of_ne_nil hne
      rw [hs] at ih
      rw [List.cons_append, splitOn_cons_of_ne hc ih, splitOn_cons_of_ne hc hs]
      rfl

theorem splitOn_append (h : sep ∉ s) (rest : List Char) :
    splitOn sep (s ++ sep :: rest) = s :: splitOn sep rest := by
  rw [splitOn_join, splitOn_of_not_mem h, List.singleton_append]

theorem splitOn_replicate (k : Nat) (s : List Char) :
    splitOn sep (List.replicate k sep ++ s) = List.replicate k [] ++ splitOn sep s := by
  induction k with
  | zero => rfl
  | succ k ih => rw [List.replicate_succ, List.cons_append, splitOn, if_pos rfl, ih]; rfl

theorem not_mem_of_mem_splitOn {p : List Char} (h : p ∈ splitOn sep s) : sep ∉ p := by
  induction s generalizing p with
  | nil =>
    obtain rfl := List.mem_singleton.mp h
    exact List.not_mem_nil
  | cons c s ih =>
    rw [splitOn] at h
    split at h
    · rcases List.mem_cons.mp h with rfl | h
      · exact List.not_mem_nil
      · exact ih h
    · next hc =>
      split at h
      · obtain rfl := List.mem_singleton.mp h
        exact fun hsep => hc (List.mem_singleton.mp hsep).symm
      · next q qs heq =>
        rcases List.mem_cons.mp h with rfl | h
        · rw [List.mem_cons, not_or]
          exact ⟨Ne.symm hc, ih (heq ▸ List.mem_cons_self)⟩
        · exact ih (heq ▸ List.mem_cons_of_mem q h)

theorem intercalate_cons_cons (sep p q : List Char) (qs : List (List Char)) :
    List.intercalate sep (p :: q :: qs) = p ++ sep ++ List.intercalate sep (q :: qs) := by
  simp [List.intercalate]

theorem intercalate_concat (sep q : List Char) {ps : List (List Char)} (hne : ps ≠ []) :
    List.intercalate sep (ps ++ [q]) = List.intercalate sep ps ++ sep ++ q := by
  induction ps with
  | nil => exact absurd rfl hne
  | cons p ps ih =>
    cases ps with
    | nil => simp [List.intercalate]
    | cons r rs =>
      rw [List.cons_append, List.cons_append, intercalate_cons_cons, ← List.cons_append,
        ih (List.cons_ne_nil r rs), intercalate_cons_cons]
      simp

/-- Pieces without the separator are found again between the separators. -/
theorem splitOn_intercalate {ps : List (List Char)} (hne : ps ≠ []) (h : ∀ p ∈ ps, sep ∉ p) :
    splitOn sep (List.intercalate [sep] ps) = ps := by
  induction ps with
  | nil => exact absurd rfl hne
  | cons p ps ih =>
    obtain ⟨hp, hps⟩ := List.forall_mem_cons.mp h
    cases ps with
    | nil => simpa [List.intercalate] using splitOn_of_not_mem hp
    | cons q qs =>
      rw [intercalate_cons_cons, List.append_assoc, List.singleton_append, splitOn_append hp,
        ih (List.cons_ne_nil q qs) hps]

end Text

namespace FilePath

def isName (n : String) : Bool := n ≠ "" && n ≠ "." && !n.toList.contains '/'

structure Proper (p : FilePath) : Prop where
  slashes : p.slashes ≤ 2
  names : ∀ n ∈ p.names, isName n = true

theorem isName_eq_true {n : String} :
    isName n = true ↔ n ≠ "" ∧ n ≠ "." ∧ '/' ∉ n.toList := by
  simp [isName, and_assoc]

theorem proper_ofString (s : String) : (ofString s).Proper := by
  constructor
  · unfold ofString
    dsimp only
    split <;> omega
  · intro n hn
    simp only [ofString, List.mem_filter, List.mem_map] at hn
    obtain ⟨⟨piece, hpiece, rfl⟩, hn⟩ := hn
    have hslash := Text.not_mem_of_mem_splitOn hpiece
    simp only [ne_eq, decide_not, Bool.and_eq_true, Bool.not_eq_true', decide_eq_false_iff_not]
      at hn
    rw [isName_eq_true, String.toList_ofList]
    exact ⟨hn.1, hn.2, hslash⟩

theorem Proper.child {p : FilePath} (h : p.Proper) {name : String} (hname : isName name = true) :
    (p.child name).Proper := by
  refine ⟨h.slashes, ?_⟩
  intro n hn
  rcases List.mem_append.mp hn with hn | hn
  · exact h.names n hn
  · obtain rfl := List.mem_singleton.mp hn
    exact hname

section ReadingBack

variable {p : FilePath}

theorem toList_text (hne : p.names ≠ []) :
    p.text.toList =
      List.replicate p.slashes '/' ++ List.intercalate ['/'] (p.names.map String.toList) := by
  have hbody : ("/".intercalate p.names).toList =
      List.intercalate ['/'] (p.names.map String.toList) := String.toList_intercalate
  unfold text isAbsolute
  dsimp only
  split
  · rw [String.toList_append, String.toList_ofList, hbody]
  · next h =>
    have hslashes : p.slashes = 0 := by simpa using h
    rw [if_neg (by simpa using hne), hbody, hslashes]
    rfl

theorem toList_text_child (hne : p.names ≠ []) (name : String) :
    (p.child name).text.toList = p.text.toList ++ '/' :: name.toList := by
  have hnames : (p.child name).names = p.names ++ [name] := rfl
  have hslashes : (p.child name).slashes = p.slashes := rfl
  rw [toList_text (by simp [hnames]), toList_text hne, hnames, hslashes, List.map_append,
    List.map_singleton, Text.intercalate_concat _ _ (by simpa using hne)]
  simp

theorem toList_text_child_of_nil (h : p.names = []) (name : String) :
    (p.child name).text.toList = List.replicate p.slashes '/' ++ name.toList := by
  have hnames : (p.child name).names = [name] := by simp [child, h]
  have hslashes : (p.child name).slashes = p.slashes := rfl
  rw [toList_text (by simp [hnames]), hnames, hslashes]
  simp [List.intercalate]

theorem Proper.pieces_text (h : p.Proper) (hne : p.names ≠ []) :
    Text.splitOn '/' p.text.toList =
      List.replicate p.slashes [] ++ p.names.map String.toList := by
  rw [toList_text hne, Text.splitOn_replicate, Text.splitOn_intercalate (by simpa using hne)]
  intro piece hpiece
  obtain ⟨n, hn, rfl⟩ := List.mem_map.mp hpiece
  exact (isName_eq_true.mp (h.names n hn)).2.2

theorem Proper.leading_text (h : p.Proper) (hne : p.names ≠ []) :
    (p.text.toList.takeWhile (· = '/')).length = p.slashes := by
  obtain ⟨n, ns, hnames⟩ := List.exists_cons_of_ne_nil hne
  obtain ⟨hempty, -, hslash⟩ := isName_eq_true.mp (h.names n (hnames ▸ List.mem_cons_self))
  obtain ⟨c, cs, hn⟩ : ∃ c cs, n.toList = c :: cs :=
    List.exists_cons_of_ne_nil (by simpa using hempty)
  obtain ⟨rest, hbody⟩ :
      ∃ rest, List.intercalate ['/'] (p.names.map String.toList) = c :: rest := by
    rw [hnames, List.map_cons, hn]
    cases ns with
    | nil => exact ⟨cs, by simp [List.intercalate]⟩
    | cons m ms => exact ⟨_, by simp [List.intercalate]; rfl⟩
  have hc : c ≠ '/' := by
    rintro rfl
    exact hslash (hn ▸ List.mem_cons_self)
  rw [toList_text hne, hbody, List.takeWhile_append_of_pos (by simp)]
  simp [hc]

theorem Proper.filter_names (h : p.Proper) :
    p.names.filter (fun n => n ≠ "" && n ≠ ".") = p.names := by
  refine List.filter_eq_self.mpr ?_
  intro n hn
  obtain ⟨hempty, hdot, -⟩ := isName_eq_true.mp (h.names n hn)
  simp [hempty, hdot]

theorem Proper.ofString_text (h : p.Proper) (hne : p.names ≠ []) : ofString p.text = p := by
  have hslashes : (if p.slashes = 2 then 2 else min p.slashes 1) = p.slashes := by
    have := h.slashes
    split <;> omega
  have hblank : (List.replicate p.slashes "").filter (fun n => n ≠ "" && n ≠ ".") = [] := by
    simp
  unfold ofString
  dsimp only
  rw [h.leading_text hne, h.pieces_text hne, hslashes, List.map_append, List.filter_append,
    List.map_replicate, List.map_map]
  have hnames : p.names.map (String.ofList ∘ String.toList) = p.names := by
    simp [Function.comp_def]
  rw [hnames, h.filter_names]
  rw [show String.ofList [] = "" from rfl, hblank, List.nil_append]

theorem text_name (name : String) : (⟨0, [name]⟩ : FilePath).text = name := by
  simp [text, isAbsolute]

theorem ofString_name {name : String} (hname : isName name = true) :
    ofString name = ⟨0, [name]⟩ := by
  have hproper : (⟨0, [name]⟩ : FilePath).Proper := ⟨by simp, by simpa using hname⟩
  have hread := hproper.ofString_text (List.cons_ne_nil name [])
  rwa [text_name] at hread

/-- The text of a path never starts an address: there are no two slashes after a name. -/
theorem Proper.dropPrefix?_text (h : p.Proper) (hne : p.names ≠ []) (scheme : List Char)
    (hscheme : scheme ≠ []) (hslash : '/' ∉ scheme) :
    Text.dropPrefix? (scheme ++ ['/', '/']) p.text.toList = none := by
  cases hdrop : Text.dropPrefix? (scheme ++ ['/', '/']) p.text.toList with
  | none => rfl
  | some rest =>
    exfalso
    have htext : p.text.toList = scheme ++ '/' :: '/' :: rest := by
      simpa using Text.eq_append_of_dropPrefix? hdrop
    have hpieces := h.pieces_text hne
    rw [htext, Text.splitOn_append hslash, Text.splitOn, if_pos rfl] at hpieces
    cases hslashes : p.slashes with
    | zero =>
      rw [hslashes, List.replicate_zero, List.nil_append] at hpieces
      have hmem : [] ∈ p.names.map String.toList :=
        hpieces ▸ List.mem_cons_of_mem _ List.mem_cons_self
      obtain ⟨n, hn, hempty⟩ := List.mem_map.mp hmem
      refine (isName_eq_true.mp (h.names n hn)).1 ?_
      rw [← String.ofList_toList (s := n), hempty]
    | succ k =>
      rw [hslashes, List.replicate_succ, List.cons_append] at hpieces
      exact hscheme (List.cons.inj hpieces).1

theorem Proper.source_text (h : p.Proper) (hne : p.names ≠ []) (hname : p.name ≠ "-") :
    DocumentSource.ofString p.text = .file p.text := by
  have hhyphen : p.text ≠ "-" := by
    intro htext
    have hp := h.ofString_text hne
    rw [htext] at hp
    exact hname (by rw [← hp]; decide)
  have hhttp := h.dropPrefix?_text hne ['h', 't', 't', 'p', ':'] (by decide) (by decide)
  have hhttps := h.dropPrefix?_text hne ['h', 't', 't', 'p', 's', ':'] (by decide) (by decide)
  have hstart : "http://".toList = ['h', 't', 't', 'p', ':'] ++ ['/', '/'] := by decide
  have hstarts : "https://".toList = ['h', 't', 't', 'p', 's', ':'] ++ ['/', '/'] := by decide
  simp only [DocumentSource.ofString, hhyphen, hstart, hstarts, hhttp, hhttps, Option.isSome_none,
    Bool.or_self, if_false, Bool.false_eq_true]

end ReadingBack

end FilePath
end ClientCompiler
