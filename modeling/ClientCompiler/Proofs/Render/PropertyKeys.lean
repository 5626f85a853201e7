import ClientCompiler.Render.PropertyKey

/-!
What the keys of properties denote. A key is an identifier, which denotes itself, or a quoted text.
Different names have different keys. A key is on one line only if its name is: line ends are not
escaped, and one after an identifier is overlooked.
-/

namespace ClientCompiler.Render

def endsLine (c : Char) : Bool := c = '\n' || c = '\r' || c = '\u2028' || c = '\u2029'

def OnOneLine (s : List Char) : Prop := ∀ c ∈ s, endsLine c = false

/-- A letter, an underscore or a dollar, and then these and digits. -/
def Identifier (s : List Char) : Prop :=
  ∃ c cs, s = c :: cs ∧ (c.isAlpha ∨ c = '_' ∨ c = '$') ∧
    ∀ d ∈ cs, d.isAlphanum ∨ d = '_' ∨ d = '$'

/-- The text between quotes without the escapes of quotes and backslashes. Neither stands there
without an escape, and nothing else is escaped. -/
def unescape : List Char → Option (List Char)
  | [] => some []
  | '\\' :: '\\' :: cs => (unescape cs).map ('\\' :: ·)
  | '\\' :: '"' :: cs => (unescape cs).map ('"' :: ·)
  | c :: cs => if c = '\\' || c = '"' then none else (unescape cs).map (c :: ·)

/-- A key on one line that denotes a name: as an identifier, or quoted. -/
structure Faithful (name key : List Char) : Prop where
  line : OnOneLine key
  denotes : (key = name ∧ Identifier name) ∨
    ∃ body, key = '"' :: body ++ ['"'] ∧ unescape body = some name

variable {s : List Char} {c : Char}

/-! ## Identifiers -/

theorem startsIdentifier_iff : startsIdentifier c = true ↔ c.isAlpha ∨ c = '_' ∨ c = '$' := by
  have hupper : c.isUpper = true ↔ 'A' ≤ c ∧ c ≤ 'Z' := decide_eq_true_iff
  have hlower : c.isLower = ('a' ≤ c && c ≤ 'z') := rfl
  have halpha : c.isAlpha = (c.isUpper || c.isLower) := rfl
  simp only [startsIdentifier, halpha, Bool.or_eq_true, hupper, hlower, Bool.and_eq_true,
    decide_eq_true_eq, or_assoc]

theorem continuesIdentifier_iff :
    continuesIdentifier c = true ↔ c.isAlphanum ∨ c = '_' ∨ c = '$' := by
  have hdigit : ('0' ≤ c && c ≤ '9') = c.isDigit := rfl
  rw [continuesIdentifier, Bool.or_eq_true, startsIdentifier_iff, hdigit, Char.isAlphanum,
    Bool.or_eq_true, or_right_comm]

theorem isIdentifier_iff : isIdentifier s = true ↔ Identifier s := by
  cases s with
  | nil => simp [isIdentifier, Identifier]
  | cons c cs =>
    simp only [isIdentifier, Identifier, Bool.and_eq_true, startsIdentifier_iff, List.all_eq_true,
      continuesIdentifier_iff, List.cons.injEq]
    constructor
    · rintro ⟨hc, hcs⟩
      exact ⟨c, cs, ⟨rfl, rfl⟩, hc, hcs⟩
    · rintro ⟨_, _, ⟨rfl, rfl⟩, hc, hcs⟩
      exact ⟨hc, hcs⟩

theorem isKey_of_onOneLine (h : OnOneLine s) : isKey s = isIdentifier s := by
  have hlast : s.getLast? ≠ some '\n' := fun heq => nomatch h '\n' (List.mem_of_getLast? heq)
  rw [isKey, if_neg hlast]

theorem quote_not_starts (h : isKey s = true) (cs : List Char) : s ≠ '"' :: cs := by
  rintro rfl
  rw [isKey] at h
  split at h
  · cases cs with
    | nil => cases h
    | cons d ds => cases h
  · cases h

/-! ## Quoted texts -/

theorem escapeQuotes_cons (c : Char) (s : List Char) :
    escapeQuotes (c :: s) =
      (if c = '\\' || c = '"' then ['\\', c] else [c]) ++ escapeQuotes s := List.flatMap_cons

/-- The induction is on the text; each character is undone on its own. -/
theorem unescape_escapeQuotes (s : List Char) : unescape (escapeQuotes s) = some s := by
  induction s with
  | nil => rfl
  | cons c s ih =>
    rw [escapeQuotes_cons]
    by_cases hbackslash : c = '\\'
    · subst hbackslash
      simp [unescape, ih]
    · by_cases hquote : c = '"'
      · subst hquote
        simp [unescape, ih]
      · simp [unescape, hbackslash, hquote, ih]

theorem mem_escapeQuotes : c ∈ s → c ∈ escapeQuotes s := by
  intro hc
  refine List.mem_flatMap.mpr ⟨c, hc, ?_⟩
  split <;> simp

theorem of_mem_escapeQuotes (h : c ∈ escapeQuotes s) : c = '\\' ∨ c ∈ s := by
  obtain ⟨d, hd, hc⟩ := List.mem_flatMap.mp h
  split at hc
  · rcases List.mem_cons.mp hc with rfl | hc
    · exact .inl rfl
    · exact .inr (List.mem_singleton.mp hc ▸ hd)
  · exact .inr (List.mem_singleton.mp hc ▸ hd)

/-! ## Keys -/

theorem Identifier.not_quoted (h : Identifier s) (cs : List Char) : s ≠ '"' :: cs := by
  rintro rfl
  obtain ⟨c, _, heq, hstart, -⟩ := h
  obtain rfl : '"' = c := (List.cons.inj heq).1
  exact absurd hstart (by decide)

theorem Faithful.unique {t key : List Char} (hs : Faithful s key) (ht : Faithful t key) : s = t := by
  rcases hs.denotes with ⟨rfl, hname⟩ | ⟨body, rfl, hname⟩
  · rcases ht.denotes with ⟨rfl, -⟩ | ⟨body, hbody, -⟩
    · rfl
    · exact absurd hbody (hname.not_quoted _)
  · rcases ht.denotes with ⟨rfl, hother⟩ | ⟨other, hbody, hother⟩
    · exact absurd rfl (hother.not_quoted _)
    · obtain rfl : body = other := List.append_cancel_right (List.cons.inj hbody).2
      exact Option.some.inj (hname.symm.trans hother)

theorem propertyKey_of_isKey (h : isKey s = true) : propertyKey s = s := if_pos h

theorem propertyKey_quoted (h : ¬ isKey s = true) :
    propertyKey s = '"' :: escapeQuotes s ++ ['"'] := if_neg h

theorem onOneLine_propertyKey : OnOneLine (propertyKey s) ↔ OnOneLine s := by
  by_cases hkey : isKey s = true
  · rw [propertyKey_of_isKey hkey]
  · rw [propertyKey_quoted hkey]
    constructor
    · intro h c hc
      exact h c (by simp [mem_escapeQuotes hc])
    · intro h c hc
      simp only [List.cons_append, List.mem_cons, List.mem_append, List.not_mem_nil,
        or_false] at hc
      rcases hc with rfl | hc | rfl
      · rfl
      · rcases of_mem_escapeQuotes hc with rfl | hc
        · rfl
        · exact h c hc
      · rfl

def keyName? : List Char → Option (List Char)
  | '"' :: cs => unescape cs.dropLast
  | cs => some cs

theorem keyName?_propertyKey (s : List Char) : keyName? (propertyKey s) = some s := by
  by_cases hkey : isKey s = true
  · rw [propertyKey_of_isKey hkey, keyName?]
    exact quote_not_starts hkey
  · rw [propertyKey_quoted hkey, List.cons_append, keyName?, List.dropLast_concat,
      unescape_escapeQuotes]

theorem faithful_propertyKey (h : OnOneLine s) : Faithful s (propertyKey s) := by
  refine ⟨onOneLine_propertyKey.mpr h, ?_⟩
  by_cases hkey : isKey s = true
  · have hidentifier := hkey
    rw [isKey_of_onOneLine h] at hidentifier
    exact .inl ⟨propertyKey_of_isKey hkey, isIdentifier_iff.mp hidentifier⟩
  · exact .inr ⟨escapeQuotes s, propertyKey_quoted hkey, unescape_escapeQuotes s⟩

/-- The key of a name is no other name's key. It is on one line and denotes this name, and no other,
exactly if no line ends in the name. -/
theorem propertyKey_denotes (s : List Char) :
    (∀ t, propertyKey t = propertyKey s → t = s) ∧
      ((Faithful s (propertyKey s) ∧ ∀ t, Faithful t (propertyKey s) → t = s) ↔ OnOneLine s) := by
  refine ⟨fun t h => ?_, fun h => onOneLine_propertyKey.mp h.1.line, fun h => ?_⟩
  · have hname := keyName?_propertyKey t
    rw [h, keyName?_propertyKey] at hname
    exact (Option.some.inj hname).symm
  · have hfaithful := faithful_propertyKey h
    exact ⟨hfaithful, fun t ht => ht.unique hfaithful⟩

/-- A name that is no identifier is left unquoted if it ends in a line end, and a line end stays
unescaped between quotes. -/
theorem key_of_two_lines :
    (propertyKey "id\n".toList = "id\n".toList ∧ ¬ Faithful "id\n".toList "id\n".toList) ∧
    (propertyKey "a\nb".toList = "\"a\nb\"".toList ∧
      ¬ Faithful "a\nb".toList "\"a\nb\"".toList) := by
  refine ⟨⟨by decide, fun h => ?_⟩, by decide, fun h => ?_⟩
  · exact nomatch h.line '\n' (by decide)
  · exact nomatch h.line '\n' (by decide)

end ClientCompiler.Render
