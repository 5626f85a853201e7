import ClientCompiler.Document.Path
import Mathlib.Data.List.Basic

/-!
Paths as the text of template literals. Scanning from the left cuts a path into placeholders and
characters that stand for themselves, in one way only. A placeholder gets a dollar in front of it,
and nothing else changes: an empty pair of braces and a brace that is never closed stay.
-/

namespace ClientCompiler.Path

inductive Part where
  | literal (c : Char)
  | placeholder (name : List Char)
  deriving DecidableEq, Repr

namespace Part

def text : Part → List Char
  | literal c => [c]
  | placeholder name => '\x7b' :: (name ++ ['\x7d'])

def code : Part → List Char
  | literal c => [c]
  | placeholder name => '$' :: (placeholder name).text

def isPlaceholder : Part → Bool
  | literal _ => false
  | placeholder _ => true

end Part

def text (parts : List Part) : List Char := parts.flatMap Part.text

def code (parts : List Part) : List Char := parts.flatMap Part.code

def Opens (s : List Char) : Prop :=
  ∃ name rest, name ≠ [] ∧ '\x7d' ∉ name ∧ s = (Part.placeholder name).text ++ rest

/-- The parts of a text from left to right. A brace stands for itself only where no placeholder is. -/
inductive Scanned : List Part → List Char → Prop where
  | nil : Scanned [] []
  | placeholder {name : List Char} {parts : List Part} {rest : List Char} (hne : name ≠ [])
      (hclosing : '\x7d' ∉ name) (h : Scanned parts rest) :
      Scanned (.placeholder name :: parts) ((Part.placeholder name).text ++ rest)
  | literal {c : Char} {parts : List Part} {rest : List Char} (hopens : ¬ Opens (c :: rest))
      (h : Scanned parts rest) : Scanned (.literal c :: parts) (c :: rest)

/-- How a text is cut into parts, and what becomes of them. -/
structure Interpolated (path out : List Char) (parts : List Part) : Prop where
  scanned : Scanned parts path
  unique : ∀ other, Scanned other path → other = parts
  path_eq : path = text parts
  out_eq : out = code parts
  length : out.length = path.length + parts.countP Part.isPlaceholder
  dollars : out.filter (· ≠ '$') = path.filter (· ≠ '$')
  braces : ∀ before after, parts = before ++ .literal '\x7b' :: after →
    (text after).head? = some '\x7d' ∨ '\x7d' ∉ text after

variable {s rest name : List Char} {c : Char} {parts : List Part}

/-! ## Scanning -/

theorem opensPlaceholder_iff :
    opensPlaceholder s = true ↔
      ∃ name rest, name ≠ [] ∧ '\x7d' ∉ name ∧ s = name ++ '\x7d' :: rest := by
  cases s with
  | nil => simp [opensPlaceholder]
  | cons c s =>
    simp only [opensPlaceholder, Bool.and_eq_true, decide_eq_true_eq, List.contains_iff_mem]
    constructor
    · rintro ⟨hc, hclosing⟩
      obtain ⟨name, rest, rfl, hname⟩ := List.eq_append_cons_of_mem hclosing
      refine ⟨c :: name, rest, List.cons_ne_nil c name, ?_, rfl⟩
      rw [List.mem_cons, not_or]
      exact ⟨Ne.symm hc, hname⟩
    · rintro ⟨name, rest, hne, hname, hs⟩
      cases name with
      | nil => exact absurd rfl hne
      | cons d name =>
        obtain ⟨rfl, rfl⟩ := List.cons.inj hs
        refine ⟨?_, by simp⟩
        rintro rfl
        exact hname (List.mem_cons_self ..)

theorem opens_cons : Opens (c :: s) ↔ c = '\x7b' ∧ opensPlaceholder s = true := by
  rw [opensPlaceholder_iff]
  constructor
  · rintro ⟨name, rest, hne, hname, hs⟩
    obtain ⟨rfl, rfl⟩ := List.cons.inj hs
    exact ⟨rfl, name, rest, hne, hname, by simp⟩
  · rintro ⟨rfl, name, rest, hne, hname, rfl⟩
    exact ⟨name, rest, hne, hname, by simp [Part.text]⟩

theorem not_opensPlaceholder (h : opensPlaceholder s = false) :
    s.head? = some '\x7d' ∨ '\x7d' ∉ s := by
  cases s with
  | nil => exact Or.inr List.not_mem_nil
  | cons c s =>
    by_cases hc : c = '\x7d'
    · exact Or.inl (congrArg some hc)
    · right
      intro hmem
      have hs : '\x7d' ∈ s := (List.mem_cons.mp hmem).resolve_left (Ne.symm hc)
      simp [opensPlaceholder, hc, hs] at h

theorem name_unique {name' rest' : List Char} (hname : '\x7d' ∉ name) (hname' : '\x7d' ∉ name')
    (h : name ++ '\x7d' :: rest = name' ++ '\x7d' :: rest') : name = name' ∧ rest = rest' := by
  induction name generalizing name' with
  | nil =>
    cases name' with
    | nil => exact ⟨rfl, (List.cons.inj h).2⟩
    | cons d name' =>
      obtain ⟨rfl, -⟩ := List.cons.inj h
      exact absurd (List.mem_cons_self ..) hname'
  | cons c name ih =>
    cases name' with
    | nil =>
      obtain ⟨rfl, -⟩ := List.cons.inj h
      exact absurd (List.mem_cons_self ..) hname
    | cons d name' =>
      obtain ⟨rfl, htail⟩ := List.cons.inj h
      rw [List.mem_cons, not_or] at hname hname'
      obtain ⟨rfl, hrest⟩ := ih hname.2 hname'.2 htail
      exact ⟨rfl, hrest⟩

theorem text_placeholder (name rest : List Char) :
    (Part.placeholder name).text ++ rest = '\x7b' :: (name ++ '\x7d' :: rest) := by
  simp [Part.text]

/-- The induction is on the length, since a placeholder takes several characters. -/
theorem exists_scanned (s : List Char) : ∃ parts, Scanned parts s := by
  induction hn : s.length using Nat.strongRecOn generalizing s with
  | ind n ih =>
    cases s with
    | nil => exact ⟨[], .nil⟩
    | cons c s =>
      by_cases hopens : Opens (c :: s)
      · obtain ⟨name, rest, hne, hname, hs⟩ := hopens
        have hlength := congrArg List.length hs
        rw [text_placeholder, hn, List.length_cons, List.length_append, List.length_cons] at hlength
        obtain ⟨parts, hparts⟩ := ih rest.length (by omega) rest rfl
        rw [hs]
        exact ⟨.placeholder name :: parts, .placeholder hne hname hparts⟩
      · obtain ⟨parts, hparts⟩ := ih s.length (by rw [← hn, List.length_cons]; omega) s rfl
        exact ⟨.literal c :: parts, .literal hopens hparts⟩

theorem Scanned.unique {parts' : List Part} (h : Scanned parts s) (h' : Scanned parts' s) :
    parts' = parts := by
  induction h generalizing parts' with
  | nil =>
    cases h' with
    | nil => rfl
  | @placeholder name parts rest hne hname _ ih =>
    generalize hs : (Part.placeholder name).text ++ rest = s at h'
    cases h' with
    | nil => cases hs
    | @placeholder name' parts' rest' hne' hname' h' =>
      rw [text_placeholder, text_placeholder] at hs
      obtain ⟨rfl, rfl⟩ := name_unique hname hname' (List.cons.inj hs).2
      rw [ih h']
    | literal hopens h' => exact absurd ⟨name, rest, hne, hname, hs.symm⟩ hopens
  | @literal c parts rest hopens _ ih =>
    generalize hs : c :: rest = s at h'
    cases h' with
    | nil => cases hs
    | @placeholder name' parts' rest' hne' hname' h' =>
      exact absurd ⟨name', rest', hne', hname', hs⟩ hopens
    | literal hopens' h' =>
      obtain ⟨rfl, rfl⟩ := List.cons.inj hs
      rw [ih h']

theorem Scanned.text_eq (h : Scanned parts s) : s = text parts := by
  induction h with
  | nil => rfl
  | placeholder _ _ _ ih =>
    rw [text, List.flatMap_cons, ← text, ← ih]
  | literal _ _ ih =>
    rw [text, List.flatMap_cons, ← text, ← ih]
    rfl

/-! ## Dollars -/

theorem interpolateFrom_inside (hname : '\x7d' ∉ name) :
    interpolateFrom true (name ++ '\x7d' :: rest) =
      name ++ '\x7d' :: interpolateFrom false rest := by
  induction name with
  | nil => rfl
  | cons c name ih =>
    rw [List.mem_cons, not_or] at hname
    have hc : decide (c ≠ '\x7d') = true := by simpa using Ne.symm hname.1
    rw [List.cons_append, interpolateFrom, if_pos rfl, hc, ih hname.2, List.cons_append]

theorem interpolateFrom_placeholder (hne : name ≠ []) (hname : '\x7d' ∉ name) :
    interpolateFrom false ((Part.placeholder name).text ++ rest) =
      (Part.placeholder name).code ++ interpolateFrom false rest := by
  have hopens : opensPlaceholder (name ++ '\x7d' :: rest) = true :=
    opensPlaceholder_iff.mpr ⟨name, rest, hne, hname, rfl⟩
  rw [text_placeholder, interpolateFrom, if_neg (by decide), if_pos (by simp [hopens]),
    interpolateFrom_inside hname]
  simp [Part.code, Part.text]

theorem interpolateFrom_literal (h : ¬ Opens (c :: rest)) :
    interpolateFrom false (c :: rest) = c :: interpolateFrom false rest := by
  rw [opens_cons] at h
  rw [interpolateFrom, if_neg (by decide), if_neg (by simpa using h)]

theorem Scanned.code_eq (h : Scanned parts s) : interpolateFrom false s = code parts := by
  induction h with
  | nil => rfl
  | placeholder hne hname _ ih =>
    rw [interpolateFrom_placeholder hne hname, ih]
    rfl
  | literal hopens _ ih =>
    rw [interpolateFrom_literal hopens, ih]
    rfl

theorem length_code (parts : List Part) :
    (code parts).length = (text parts).length + parts.countP Part.isPlaceholder := by
  induction parts with
  | nil => rfl
  | cons p parts ih =>
    rw [code, text] at ih ⊢
    rw [List.flatMap_cons, List.flatMap_cons, List.length_append, List.length_append, ih,
      List.countP_cons]
    cases p with
    | literal c => simp [Part.code, Part.text, Part.isPlaceholder]; omega
    | placeholder name => simp [Part.code, Part.text, Part.isPlaceholder]; omega

theorem filter_code (parts : List Part) :
    (code parts).filter (· ≠ '$') = (text parts).filter (· ≠ '$') := by
  induction parts with
  | nil => rfl
  | cons p parts ih =>
    rw [code, text] at ih ⊢
    rw [List.flatMap_cons, List.flatMap_cons, List.filter_append, List.filter_append, ih]
    cases p with
    | literal c => rfl
    | placeholder name => rfl

theorem Scanned.braces {before after : List Part}
    (h : Scanned (before ++ .literal '\x7b' :: after) s) :
    (text after).head? = some '\x7d' ∨ '\x7d' ∉ text after := by
  induction before generalizing s with
  | nil =>
    cases h with
    | literal hopens h =>
      rw [opens_cons, not_and] at hopens
      rw [← h.text_eq]
      exact not_opensPlaceholder (by simpa using hopens rfl)
  | cons p before ih =>
    cases h with
    | placeholder _ _ h => exact ih h
    | literal _ h => exact ih h

theorem Scanned.interpolated (h : Scanned parts s) :
    Interpolated s (interpolateFrom false s) parts where
  scanned := h
  unique _ hother := h.unique hother
  path_eq := h.text_eq
  out_eq := h.code_eq
  length := by rw [h.code_eq, length_code, ← h.text_eq]
  dollars := by rw [h.code_eq, filter_code, ← h.text_eq]
  braces := by
    rintro before after rfl
    exact h.braces

theorem toList_interpolate (path : String) :
    (interpolate path).toList = interpolateFrom false path.toList := by
  rw [interpolate, String.toList_ofList]

/-- Interpolation puts one dollar before each placeholder and does nothing else, so that two paths
without dollars are told apart by what they become. -/
theorem interpolate_inserts (p q : String) :
    (∃ parts, Interpolated p.toList (interpolate p).toList parts) ∧
      ('$' ∉ p.toList → '$' ∉ q.toList → interpolate p = interpolate q → p = q) := by
  constructor
  · obtain ⟨parts, hparts⟩ := exists_scanned p.toList
    rw [toList_interpolate]
    exact ⟨parts, hparts.interpolated⟩
  · intro hp hq heq
    obtain ⟨parts, hparts⟩ := exists_scanned p.toList
    obtain ⟨parts', hparts'⟩ := exists_scanned q.toList
    have hfilter {r : List Char} (hr : '$' ∉ r) : r.filter (· ≠ '$') = r := by
      rw [List.filter_eq_self]
      intro c hc
      rw [decide_eq_true_eq]
      rintro rfl
      exact hr hc
    have hpd := hparts.interpolated.dollars
    have hqd := hparts'.interpolated.dollars
    rw [← toList_interpolate, hfilter hp] at hpd
    rw [← toList_interpolate, hfilter hq] at hqd
    rw [heq, hqd] at hpd
    exact String.toList_injective hpd.symm

/-- A nested brace, an empty pair and an open brace. -/
theorem interpolate_inserts_nested :
    let p := "/pets/\x7b\x7bid\x7d/\x7b\x7d/\x7btag"
    let q := "/pets" ++ "/\x7b\x7bid\x7d/\x7b\x7d/\x7btag"
    interpolate p = "/pets/$\x7b\x7bid\x7d/\x7b\x7d/\x7btag" ∧
      (∃ parts, Interpolated p.toList (interpolate p).toList parts) ∧
        '$' ∉ p.toList ∧ '$' ∉ q.toList ∧ interpolate p = interpolate q ∧ p = q := by
  intro p q
  obtain ⟨hparts, hinjective⟩ := interpolate_inserts p q
  have hp : '$' ∉ p.toList := by decide
  have hq : '$' ∉ q.toList := by decide
  have heq : interpolate p = interpolate q := by decide
  exact ⟨by decide, hparts, hp, hq, heq, hinjective hp hq heq⟩

end ClientCompiler.Path
