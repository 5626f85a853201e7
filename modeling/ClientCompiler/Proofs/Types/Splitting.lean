import ClientCompiler.Types.Spelling

/-!
Splitting a bracketed segment at its commas. A text that is closed from some depth on holds no
separating comma there and comes back to the depth it started at, so that closed texts with
commas between them are found again.
-/

namespace ClientCompiler.Spelling

def depth (d : Nat) (s : List Char) : Nat := s.foldl depthAfter d

/-- At every depth from `k` on, the text is one piece and leaves the depth as it was. -/
structure ClosedFrom (k : Nat) (s : List Char) : Prop where
  whole : ∀ d, k ≤ d → pieces d s = [s]
  level : ∀ d, k ≤ d → depth d s = d

def appendHead (s : List Char) : List (List Char) → List (List Char)
  | [] => [s]
  | p :: ps => (s ++ p) :: ps

@[simp] theorem depth_nil (d : Nat) : depth d [] = d := rfl

@[simp] theorem depth_cons (d : Nat) (c : Char) (s : List Char) :
    depth d (c :: s) = depth (depthAfter d c) s := rfl

theorem depth_append (d : Nat) (s r : List Char) : depth d (s ++ r) = depth (depth d s) r :=
  List.foldl_append

theorem pieces_ne_nil (d : Nat) (s : List Char) : pieces d s ≠ [] := by
  cases s with
  | nil => simp [pieces]
  | cons c s =>
    unfold pieces
    split
    · simp
    · cases pieces (depthAfter d c) s <;> simp [consHead]

theorem pieces_cons_of_not_separator {d : Nat} {c : Char} (h : ¬(c = ',' ∧ d = 0))
    (s : List Char) : pieces d (c :: s) = consHead c (pieces (depthAfter d c) s) := by
  simp only [pieces, h, if_false]

theorem pieces_comma (s : List Char) : pieces 0 (',' :: s) = [] :: pieces 0 s := by
  simp [pieces]

theorem consHead_appendHead (c : Char) (s : List Char) {ps : List (List Char)} (h : ps ≠ []) :
    consHead c (appendHead s ps) = appendHead (c :: s) ps := by
  cases ps with
  | nil => exact absurd rfl h
  | cons p ps => rfl

theorem eq_singleton_of_consHead {c : Char} {s : List Char} {ps : List (List Char)}
    (hne : ps ≠ []) (h : consHead c ps = [c :: s]) : ps = [s] := by
  cases ps with
  | nil => exact absurd rfl hne
  | cons p ps => simpa [consHead] using h

/-- What follows a text that is one piece is split at the depth after it. -/
theorem pieces_append {d : Nat} {s : List Char} (h : pieces d s = [s]) (r : List Char) :
    pieces d (s ++ r) = appendHead s (pieces (depth d s) r) := by
  induction s generalizing d with
  | nil =>
    have hne := pieces_ne_nil d r
    cases hr : pieces d r with
    | nil => exact absurd hr hne
    | cons p ps => simp [appendHead, hr]
  | cons c s ih =>
    by_cases hc : c = ',' ∧ d = 0
    · obtain ⟨rfl, rfl⟩ := hc
      rw [pieces_comma] at h
      exact absurd h (by simp)
    · rw [pieces_cons_of_not_separator hc] at h
      have hs := eq_singleton_of_consHead (pieces_ne_nil _ s) h
      rw [List.cons_append, pieces_cons_of_not_separator hc, ih hs,
        consHead_appendHead c s (pieces_ne_nil _ r), depth_cons]

/-- A comma outside all brackets splits, whatever stands before it. -/
theorem pieces_separator {d : Nat} {s : List Char} (h : depth d s = 0) (r : List Char) :
    pieces d (s ++ ',' :: r) = pieces d s ++ pieces 0 r := by
  induction s generalizing d with
  | nil =>
    obtain rfl : d = 0 := h
    rw [List.nil_append, pieces_comma]
    rfl
  | cons c s ih =>
    by_cases hc : c = ',' ∧ d = 0
    · obtain ⟨rfl, rfl⟩ := hc
      have hlevel : depth 0 s = 0 := h
      rw [List.cons_append, pieces_comma, pieces_comma, ih hlevel, List.cons_append]
    · obtain ⟨p, ps, hpieces⟩ := List.exists_cons_of_ne_nil (pieces_ne_nil (depthAfter d c) s)
      rw [List.cons_append, pieces_cons_of_not_separator hc, pieces_cons_of_not_separator hc, ih h,
        hpieces]
      rfl

theorem ClosedFrom.nil (k : Nat) : ClosedFrom k [] := ⟨fun _ _ => rfl, fun _ _ => rfl⟩

theorem ClosedFrom.mono {k l : Nat} {s : List Char} (h : ClosedFrom k s) (hkl : k ≤ l) :
    ClosedFrom l s :=
  ⟨fun d hd => h.whole d (Nat.le_trans hkl hd), fun d hd => h.level d (Nat.le_trans hkl hd)⟩

theorem ClosedFrom.append {k : Nat} {s r : List Char} (hs : ClosedFrom k s)
    (hr : ClosedFrom k r) : ClosedFrom k (s ++ r) := by
  constructor
  · intro d hd
    rw [pieces_append (hs.whole d hd), hs.level d hd, hr.whole d hd]
    rfl
  · intro d hd
    rw [depth_append, hs.level d hd, hr.level d hd]

theorem ClosedFrom.singleton {k : Nat} {c : Char} (ho : c ≠ '<') (hc : c ≠ '>')
    (hs : c = ',' → 0 < k) : ClosedFrom k [c] := by
  constructor
  · intro d hd
    rw [pieces_cons_of_not_separator (by rintro ⟨h, rfl⟩; exact absurd (hs h) (by omega))]
    simp [pieces, consHead]
  · intro d _
    simp [depthAfter, ho, hc]

theorem ClosedFrom.plain {s : List Char} (h : ∀ c ∈ s, c ≠ '<' ∧ c ≠ '>' ∧ c ≠ ',') :
    ClosedFrom 0 s := by
  induction s with
  | nil => exact .nil 0
  | cons c s ih =>
    have hc := h c (List.mem_cons_self ..)
    have hs : ClosedFrom 0 [c] := .singleton hc.1 hc.2.1 (fun e => absurd e hc.2.2)
    exact hs.append (ih fun x hx => h x (List.mem_cons_of_mem c hx))

theorem ClosedFrom.bracketed {k : Nat} {s : List Char} (h : ClosedFrom (k + 1) s) :
    ClosedFrom k ('<' :: (s ++ ['>'])) := by
  constructor
  · intro d hd
    have hw := h.whole (d + 1) (by omega)
    have hl := h.level (d + 1) (by omega)
    rw [pieces_cons_of_not_separator (by simp),
      show depthAfter d '<' = d + 1 from rfl, pieces_append hw, hl]
    simp [pieces, consHead, appendHead]
  · intro d hd
    rw [depth_cons, show depthAfter d '<' = d + 1 from rfl, depth_append,
      h.level (d + 1) (by omega)]
    simp [depthAfter]

def commaTail (ss : List (List Char)) : List Char := ss.flatMap fun s => ',' :: s

theorem ClosedFrom.separated {s : List Char} {ss : List (List Char)} (hs : ClosedFrom 0 s)
    (hss : ∀ r ∈ ss, ClosedFrom 0 r) : ClosedFrom 1 (s ++ commaTail ss) := by
  have tail : ClosedFrom 1 (commaTail ss) := by
    induction ss with
    | nil => exact .nil 1
    | cons r ss ih =>
      have hr : ClosedFrom 1 r := (hss r (List.mem_cons_self ..)).mono (by omega)
      have hc : ClosedFrom 1 [','] := .singleton (by decide) (by decide) (fun _ => by decide)
      exact (hc.append hr).append (ih fun x hx => hss x (List.mem_cons_of_mem r hx))
  exact (hs.mono (by omega)).append tail

theorem pieces_separated {s : List Char} {ss : List (List Char)} (hs : ClosedFrom 0 s)
    (hss : ∀ r ∈ ss, ClosedFrom 0 r) : pieces 0 (s ++ commaTail ss) = s :: ss := by
  induction ss generalizing s with
  | nil => simpa [commaTail] using hs.whole 0 (by omega)
  | cons r ss ih =>
    have hr := hss r (List.mem_cons_self ..)
    have ht := ih hr fun x hx => hss x (List.mem_cons_of_mem r hx)
    have he : commaTail (r :: ss) = ',' :: (r ++ commaTail ss) := by simp [commaTail]
    rw [he, pieces_separator (hs.level 0 (by omega)), hs.whole 0 (by omega), ht]
    rfl

theorem dropEmptyLast_of_last {ps : List (List Char)} (h : ps.getLast? ≠ some []) :
    dropEmptyLast ps = ps := by
  induction ps with
  | nil => rfl
  | cons p ps ih =>
    cases ps with
    | nil => simpa [dropEmptyLast] using h
    | cons q ps =>
      rw [List.getLast?_cons_cons] at h
      rw [dropEmptyLast, ih h]

/-- Splitting undoes separating, for closed texts that are not empty. -/
theorem arguments_separated {s : List Char} {ss : List (List Char)}
    (h : ∀ r ∈ s :: ss, ClosedFrom 0 r ∧ r ≠ []) :
    arguments (s ++ commaTail ss) = (s :: ss).map Text.trim := by
  unfold arguments
  have hs := (h s (List.mem_cons_self ..)).1
  rw [pieces_separated hs fun r hr => (h r (List.mem_cons_of_mem s hr)).1, dropEmptyLast_of_last]
  exact fun hlast => (h [] (List.mem_of_getLast? hlast)).2 rfl

end ClientCompiler.Spelling
