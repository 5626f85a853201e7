import ClientCompiler.Proofs.Text.Trimming
import ClientCompiler.Proofs.Types.Splitting

/-!
Equations for reading a spelling, without fuel. One step reads shorter texts only, so that the
fuel of `TypeNode.ofChars` never runs out; the equations say what a pair of square brackets, a
bracketed segment and a bare name are read as.
-/

namespace ClientCompiler.Spelling

variable {table : TypeTable}

/-- One step of reading a trimmed text that is not empty, with `read` for the texts inside. -/
def readTrimmed (table : TypeTable) (read : List Char → TypeNode) (t : List Char) : TypeNode :=
  match beforeArraySuffix? t with
  | some element => TypeNode.arrayOf (read element)
  | none =>
    .node (nodeName table (nameAndSegment t).1)
      ((((nameAndSegment t).2.map arguments).getD []).map read)

def readStep (table : TypeTable) (read : List Char → TypeNode) (s : List Char) : TypeNode :=
  match (Text.trim s).map plainBracket with
  | [] => TypeNode.any
  | c :: t => readTrimmed table read (c :: t)

theorem parse_succ (fuel : Nat) (s : List Char) :
    parse table (fuel + 1) s = readStep table (parse table fuel) s := by
  unfold readStep
  rw [parse]
  cases (Text.trim s).map plainBracket with
  | nil => rfl
  | cons c t => rfl

theorem eq_append_of_beforeArraySuffix? {t e : List Char} (h : beforeArraySuffix? t = some e) :
    t = e ++ ['[', ']'] := by
  unfold beforeArraySuffix? at h
  split at h
  · next r hr =>
    have he : r.reverse = e := by simpa using h
    rw [← List.reverse_reverse t, hr, ← he]
    simp
  · cases h

theorem beforeArraySuffix?_append (s : List Char) :
    beforeArraySuffix? (s ++ ['[', ']']) = some s := by
  simp [beforeArraySuffix?]

theorem beforeArraySuffix?_eq_none {t : List Char} (h : ¬ ['[', ']'] <:+ t) :
    beforeArraySuffix? t = none := by
  cases he : beforeArraySuffix? t with
  | none => rfl
  | some e => exact absurd ⟨e, (eq_append_of_beforeArraySuffix? he).symm⟩ h

theorem beforeLastClosing?_concat (s : List Char) : beforeLastClosing? (s ++ ['>']) = some s := by
  simp [beforeLastClosing?]

theorem length_of_beforeLastClosing? {s r : List Char} (h : beforeLastClosing? s = some r) :
    r.length < s.length := by
  unfold beforeLastClosing? at h
  split at h
  · next c x hx =>
    have hl : (c :: x).length ≤ s.reverse.length := hx ▸ (List.dropWhile_suffix _).length_le
    have hr : x.reverse = r := by simpa using h
    rw [← hr]
    simp only [List.length_cons, List.length_reverse] at hl ⊢
    omega
  · cases h

theorem length_of_nameAndSegment {t seg : List Char} (h : (nameAndSegment t).2 = some seg) :
    seg.length < t.length := by
  unfold nameAndSegment at h
  split at h
  · next c rest hr =>
    have hl : (c :: rest).length ≤ t.length := hr ▸ (List.dropWhile_suffix _).length_le
    have hs := length_of_beforeLastClosing? h
    simp only [List.length_cons] at hl
    omega
  · cases h

theorem length_of_mem_consHead {c : Char} {ps : List (List Char)} {n : Nat}
    (h : ∀ p ∈ ps, p.length ≤ n) : ∀ p ∈ consHead c ps, p.length ≤ n + 1 := by
  intro p hp
  cases ps with
  | nil =>
    simp only [consHead, List.mem_singleton] at hp
    simp [hp]
  | cons q ps =>
    rcases List.mem_cons.mp hp with rfl | hp
    · simpa using h q (List.mem_cons_self ..)
    · exact (h p (List.mem_cons_of_mem q hp)).trans (Nat.le_succ n)

theorem length_of_mem_pieces {d : Nat} {s : List Char} :
    ∀ p ∈ pieces d s, p.length ≤ s.length := by
  induction s generalizing d with
  | nil => simp [pieces]
  | cons c s ih =>
    unfold pieces
    split
    · intro p hp
      rcases List.mem_cons.mp hp with rfl | hp
      · simp
      · exact (ih p hp).trans (Nat.le_succ _)
    · exact length_of_mem_consHead ih

theorem mem_of_mem_dropEmptyLast {ps : List (List Char)} {p : List Char}
    (h : p ∈ dropEmptyLast ps) : p ∈ ps := by
  induction ps with
  | nil => exact h
  | cons q ps ih =>
    cases ps with
    | nil =>
      unfold dropEmptyLast at h
      split at h
      · cases h
      · exact h
    | cons r ps =>
      rw [dropEmptyLast] at h
      rcases List.mem_cons.mp h with rfl | h
      · exact List.mem_cons_self ..
      · exact List.mem_cons_of_mem q (ih h)

theorem length_of_mem_arguments {seg a : List Char} (h : a ∈ arguments seg) :
    a.length ≤ seg.length := by
  obtain ⟨p, hp, rfl⟩ := List.mem_map.mp h
  exact (Text.length_trim_le p).trans (length_of_mem_pieces p (mem_of_mem_dropEmptyLast hp))

theorem readStep_congr {f g : List Char → TypeNode} {s : List Char}
    (h : ∀ r : List Char, r.length < s.length → f r = g r) :
    readStep table f s = readStep table g s := by
  unfold readStep
  have ht : ((Text.trim s).map plainBracket).length ≤ s.length := by
    rw [List.length_map]
    exact Text.length_trim_le s
  generalize (Text.trim s).map plainBracket = t at ht
  cases t with
  | nil => rfl
  | cons c t =>
    simp only [readTrimmed]
    split
    · next e he =>
      have hl := congrArg List.length (eq_append_of_beforeArraySuffix? he)
      rw [List.length_append] at hl
      rw [h e (by simp only [List.length_cons, List.length_nil] at hl ht ⊢; omega)]
    · congr 1
      cases hseg : (nameAndSegment (c :: t)).2 with
      | none => rfl
      | some seg =>
        have hl := length_of_nameAndSegment hseg
        apply List.map_congr_left
        intro a ha
        have hb := length_of_mem_arguments (show a ∈ arguments seg from ha)
        exact h a (by omega)

theorem parse_eq_of_lt {n m : Nat} {s : List Char} (hn : s.length < n) (hm : s.length < m) :
    parse table n s = parse table m s := by
  induction n generalizing m s with
  | zero => omega
  | succ n ih =>
    cases m with
    | zero => omega
    | succ m =>
      rw [parse_succ, parse_succ]
      exact readStep_congr fun r hr => ih (by omega) (by omega)

/-- Reading a text is one step over reading the texts inside. -/
theorem ofChars_eq (s : List Char) :
    TypeNode.ofChars table s = readStep table (TypeNode.ofChars table) s := by
  unfold TypeNode.ofChars
  rw [parse_succ]
  exact readStep_congr fun r hr => parse_eq_of_lt hr (by omega)

theorem isBlank_plainBracket (c : Char) : Text.isBlank (plainBracket c) = Text.isBlank c := by
  unfold plainBracket
  split
  · next h => subst h; decide
  · split
    · next h => subst h; decide
    · rfl

theorem plainBracket_plainBracket (c : Char) : plainBracket (plainBracket c) = plainBracket c := by
  unfold plainBracket
  grind

theorem ofChars_trim (s : List Char) :
    TypeNode.ofChars table (Text.trim s) = TypeNode.ofChars table s := by
  rw [ofChars_eq, ofChars_eq s]
  unfold readStep
  rw [Text.trim_trim]

theorem ofChars_surrounded {a b : List Char} (ha : Text.AllBlank a) (hb : Text.AllBlank b)
    (s : List Char) : TypeNode.ofChars table (a ++ s ++ b) = TypeNode.ofChars table s := by
  rw [← ofChars_trim, Text.trim_surrounded ha hb, ofChars_trim]

theorem ofChars_plainBracket (s : List Char) :
    TypeNode.ofChars table (s.map plainBracket) = TypeNode.ofChars table s := by
  rw [ofChars_eq, ofChars_eq s]
  unfold readStep
  rw [Text.trim_map isBlank_plainBracket, List.map_map,
    show plainBracket ∘ plainBracket = plainBracket from funext plainBracket_plainBracket]

theorem ofChars_of_trim {s t : List Char} (ht : (Text.trim s).map plainBracket = t)
    (hne : t ≠ []) :
    TypeNode.ofChars table s = readTrimmed table (TypeNode.ofChars table) t := by
  rw [ofChars_eq]
  unfold readStep
  rw [ht]
  cases t with
  | nil => exact absurd rfl hne
  | cons c t => rfl

theorem ofChars_array (s : List Char) :
    TypeNode.ofChars table (s ++ ['[', ']']) = TypeNode.arrayOf (TypeNode.ofChars table s) := by
  have ht : (Text.trim (s ++ ['[', ']'])).map plainBracket =
      (Text.trimLeft s).map plainBracket ++ ['[', ']'] := by
    have h := Text.trim_append_between (c := '[') (e := ']') (by decide) (by decide) s []
    rw [List.nil_append] at h
    rw [h, List.map_append]
    rfl
  rw [ofChars_of_trim ht (by simp)]
  unfold readTrimmed
  rw [beforeArraySuffix?_append]
  simp only
  rw [ofChars_plainBracket, ← ofChars_trim, Text.trim_trimLeft, ofChars_trim]

theorem map_plainBracket_of_plain {n : List Char} (h : ∀ c ∈ n, c ≠ '«' ∧ c ≠ '»') :
    n.map plainBracket = n := by
  induction n with
  | nil => rfl
  | cons c n ih =>
    have hc := h c (List.mem_cons_self ..)
    rw [List.map_cons, ih fun x hx => h x (List.mem_cons_of_mem c hx)]
    simp [plainBracket, hc.1, hc.2]

theorem nameAndSegment_append {n : List Char} (hn : ∀ c ∈ n, c ≠ '<') (rest : List Char) :
    nameAndSegment (n ++ '<' :: rest) = (n, beforeLastClosing? rest) := by
  have hp : ∀ c ∈ n, decide (c ≠ '<') = true := fun c hc => by simpa using hn c hc
  unfold nameAndSegment
  rw [List.dropWhile_append_of_pos hp, List.takeWhile_append_of_pos hp]
  simp

theorem nameAndSegment_of_plain {n : List Char} (hn : ∀ c ∈ n, c ≠ '<') :
    nameAndSegment n = (n, none) := by
  have hd : n.dropWhile (fun c => decide (c ≠ '<')) = [] := by
    rw [List.dropWhile_eq_nil_iff]
    exact fun c hc => by simpa using hn c hc
  unfold nameAndSegment
  rw [hd]

theorem ofChars_generic {n : List Char} (hn : ∀ c ∈ n, c ≠ '<' ∧ c ≠ '«' ∧ c ≠ '»') {o e : Char}
    (ho : plainBracket o = '<') (he : plainBracket e = '>') (inner : List Char) :
    TypeNode.ofChars table (n ++ o :: (inner ++ [e])) =
      .node (nodeName table n)
        ((arguments (inner.map plainBracket)).map (TypeNode.ofChars table)) := by
  have hob : Text.isBlank o = false := by rw [← isBlank_plainBracket, ho]; decide
  have heb : Text.isBlank e = false := by rw [← isBlank_plainBracket, he]; decide
  have hl : ∀ c ∈ Text.trimLeft n, c ∈ n := fun c hc => List.dropWhile_subset _ hc
  have ht : (Text.trim (n ++ o :: (inner ++ [e]))).map plainBracket =
      Text.trimLeft n ++ '<' :: (inner.map plainBracket ++ ['>']) := by
    rw [Text.trim_append_between hob heb, List.map_append, List.map_cons, List.map_append, ho,
      map_plainBracket_of_plain fun c hc => (hn c (hl c hc)).2, List.map_singleton, he]
  rw [ofChars_of_trim ht (by simp)]
  unfold readTrimmed
  rw [beforeArraySuffix?_eq_none, nameAndSegment_append fun c hc => (hn c (hl c hc)).1,
    beforeLastClosing?_concat]
  · simp only [Option.map_some, Option.getD_some, nodeName, Text.trim_trimLeft]
  · rintro ⟨x, hx⟩
    have hr := congrArg List.reverse hx
    simp at hr

end ClientCompiler.Spelling
