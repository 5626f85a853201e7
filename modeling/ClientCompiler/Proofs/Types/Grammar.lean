import ClientCompiler.Proofs.Types.Reading

/-!
The grammar of spellings, and what a spelling denotes. A spelling is kept as a tree with all its
blanks and bracket styles, so that its text is a function of the tree; reading that text gives the
denoted type at any depth of brackets, suffixes and blanks.
-/

namespace ClientCompiler.Spelling

def reserved : List Char := ['<', '>', '«', '»', ',']

structure IsName (s : List Char) : Prop where
  ne_nil : s ≠ []
  trimmed : Text.trim s = s
  plain : ∀ c ∈ s, c ∉ reserved
  no_suffix : ¬ ['[', ']'] <:+ s

instance (s : List Char) : Decidable (IsName s) :=
  decidable_of_iff
    (s ≠ [] ∧ Text.trim s = s ∧ s.all (fun c => c ∉ reserved) = true ∧ ¬ ['[', ']'] <:+ s)
    ⟨fun ⟨h₁, h₂, h₃, h₄⟩ => ⟨h₁, h₂, by simpa using h₃, h₄⟩,
      fun ⟨h₁, h₂, h₃, h₄⟩ => ⟨h₁, h₂, by simpa using h₃, h₄⟩⟩

abbrev Name := { s : List Char // IsName s }

abbrev Blanks := { s : List Char // Text.AllBlank s }

inductive Bracket where
  | angle
  | guillemet
  deriving DecidableEq, Repr

def Bracket.opening : Bracket → Char
  | .angle => '<'
  | .guillemet => '«'

def Bracket.closing : Bracket → Char
  | .angle => '>'
  | .guillemet => '»'

/-- A spelling: a name, a name over bracketed arguments, or a spelling with square brackets after
it. Blanks may surround every spelling and stand before an opening bracket; the two brackets of a
segment need not be of one style. -/
inductive Spelled where
  | name (n : Name)
  | generic (n : Name) (gap : Blanks) (left right : Bracket) (first : Spelled)
      (rest : List Spelled)
  | array (element : Spelled)
  | padded (before : Blanks) (inner : Spelled) (after : Blanks)

namespace Spelled

mutual

def text : Spelled → List Char
  | .name n => n.val
  | .generic n gap left right first rest =>
    n.val ++ gap.val ++ left.opening :: (text first ++ commaTail (texts rest) ++ [right.closing])
  | .array element => text element ++ ['[', ']']
  | .padded before inner after => before.val ++ text inner ++ after.val

def texts : List Spelled → List (List Char)
  | [] => []
  | t :: ts => text t :: texts ts

end

/-- The name that the table gives for a name; where it gives nothing, `any`. -/
def denotedName (table : TypeTable) (n : Name) : String :=
  let m := table.canonicalName (String.ofList n.val)
  if m = "" then "any" else m

mutual

def denote (table : TypeTable) : Spelled → TypeNode
  | .name n => .node (denotedName table n) []
  | .generic n _ _ _ first rest =>
    .node (denotedName table n) (denote table first :: denoteAll table rest)
  | .array element => TypeNode.arrayOf (denote table element)
  | .padded _ inner _ => denote table inner

def denoteAll (table : TypeTable) : List Spelled → List TypeNode
  | [] => []
  | t :: ts => denote table t :: denoteAll table ts

end

end Spelled

theorem IsName.not_special {s : List Char} (h : IsName s) :
    ∀ c ∈ s, c ≠ '<' ∧ c ≠ '>' ∧ c ≠ '«' ∧ c ≠ '»' ∧ c ≠ ',' := by
  intro c hc
  simpa [reserved] using h.plain c hc

theorem IsName.map_plainBracket {s : List Char} (h : IsName s) : s.map plainBracket = s :=
  map_plainBracket_of_plain fun c hc => ⟨(h.not_special c hc).2.2.1, (h.not_special c hc).2.2.2.1⟩

theorem IsName.closed {s : List Char} (h : IsName s) : ClosedFrom 0 s :=
  .plain fun c hc =>
    ⟨(h.not_special c hc).1, (h.not_special c hc).2.1, (h.not_special c hc).2.2.2.2⟩

theorem blank_not_special {s : List Char} (h : Text.AllBlank s) :
    ∀ c ∈ s, c ≠ '<' ∧ c ≠ '>' ∧ c ≠ '«' ∧ c ≠ '»' ∧ c ≠ ',' := by
  intro c hc
  have hb := h c hc
  refine ⟨?_, ?_, ?_, ?_, ?_⟩ <;> rintro rfl <;> exact absurd hb (by decide)

theorem blank_map_plainBracket {s : List Char} (h : Text.AllBlank s) : s.map plainBracket = s :=
  map_plainBracket_of_plain fun c hc =>
    ⟨(blank_not_special h c hc).2.2.1, (blank_not_special h c hc).2.2.2.1⟩

theorem blank_closed {s : List Char} (h : Text.AllBlank s) : ClosedFrom 0 s :=
  .plain fun c hc =>
    ⟨(blank_not_special h c hc).1, (blank_not_special h c hc).2.1,
      (blank_not_special h c hc).2.2.2.2⟩

theorem Bracket.plain_opening (b : Bracket) : plainBracket b.opening = '<' := by
  cases b <;> rfl

theorem Bracket.plain_closing (b : Bracket) : plainBracket b.closing = '>' := by
  cases b <;> rfl

theorem commaTail_map_plainBracket (ss : List (List Char)) :
    (commaTail ss).map plainBracket = commaTail (ss.map (List.map plainBracket)) := by
  induction ss with
  | nil => rfl
  | cons s ss ih =>
    have hc : ∀ r rs, commaTail (r :: rs) = ',' :: (r ++ commaTail rs) := by simp [commaTail]
    rw [hc, List.map_cons, List.map_append, ih, List.map_cons, hc]
    rfl

variable {table : TypeTable}

theorem ofChars_name {n : List Char} (h : IsName n) :
    TypeNode.ofChars table n = .node (nodeName table n) [] := by
  have ht : (Text.trim n).map plainBracket = n := by rw [h.trimmed, h.map_plainBracket]
  rw [ofChars_of_trim ht h.ne_nil]
  unfold readTrimmed
  rw [beforeArraySuffix?_eq_none h.no_suffix,
    nameAndSegment_of_plain fun c hc => (h.not_special c hc).1]
  rfl

theorem nodeName_eq_denotedName (n : Name) (gap : Blanks) :
    nodeName table (n.val ++ gap.val) = Spelled.denotedName table n := by
  have ht : Text.trim (n.val ++ gap.val) = n.val := by
    have h := Text.trim_surrounded (a := []) (by simp [Text.AllBlank]) gap.property n.val
    rw [List.nil_append] at h
    rw [h, n.property.trimmed]
  unfold nodeName Spelled.denotedName
  rw [ht]
  simp only [String.isEmpty_iff]

theorem ofChars_segment {s : List Char} {ss : List (List Char)}
    (h : ∀ r ∈ s :: ss, ClosedFrom 0 (r.map plainBracket) ∧ r ≠ []) :
    (arguments ((s ++ commaTail ss).map plainBracket)).map (TypeNode.ofChars table) =
      (s :: ss).map (TypeNode.ofChars table) := by
  have hm : ∀ r ∈ s.map plainBracket :: ss.map (List.map plainBracket),
      ClosedFrom 0 r ∧ r ≠ [] := by
    intro r hr
    rw [← List.map_cons] at hr
    obtain ⟨x, hx, rfl⟩ := List.mem_map.mp hr
    exact ⟨(h x hx).1, by simpa using (h x hx).2⟩
  rw [List.map_append, commaTail_map_plainBracket, arguments_separated hm, ← List.map_cons,
    List.map_map, List.map_map]
  apply List.map_congr_left
  intro r _
  simp only [Function.comp_apply, ofChars_trim, ofChars_plainBracket]

namespace Spelled

theorem text_ne_nil (t : Spelled) : t.text ≠ [] := by
  cases t with
  | name n => rw [text]; exact n.property.ne_nil
  | generic n gap left right first rest => rw [text]; simp
  | array element => rw [text]; simp
  | padded before inner after =>
    rw [text]
    simp [text_ne_nil inner]

mutual

theorem closed_text : ∀ t : Spelled, ClosedFrom 0 (t.text.map plainBracket)
  | .name n => by
    rw [text, n.property.map_plainBracket]
    exact n.property.closed
  | .generic n gap left right first rest => by
    have hinner : ClosedFrom 1 ((text first ++ commaTail (texts rest)).map plainBracket) := by
      rw [List.map_append, commaTail_map_plainBracket]
      exact (closed_text first).separated fun r hr => by
        obtain ⟨x, hx, rfl⟩ := List.mem_map.mp hr
        exact closed_texts rest x hx
    rw [text, List.map_append, List.map_append, List.map_cons, List.map_append, List.map_singleton,
      left.plain_opening, right.plain_closing, n.property.map_plainBracket,
      blank_map_plainBracket gap.property]
    exact (n.property.closed.append (blank_closed gap.property)).append hinner.bracketed
  | .array element => by
    have hb : ClosedFrom 0 ['[', ']'] := .plain (by simp)
    rw [text, List.map_append]
    exact (closed_text element).append hb
  | .padded before inner after => by
    rw [text, List.map_append, List.map_append, blank_map_plainBracket before.property,
      blank_map_plainBracket after.property]
    exact ((blank_closed before.property).append (closed_text inner)).append
      (blank_closed after.property)

theorem closed_texts : ∀ ts : List Spelled, ∀ r ∈ texts ts, ClosedFrom 0 (r.map plainBracket)
  | [] => by simp [texts]
  | t :: ts => by
    intro r hr
    rw [texts] at hr
    rcases List.mem_cons.mp hr with rfl | hr
    · exact closed_text t
    · exact closed_texts ts r hr

end

theorem ne_nil_of_mem_texts {ts : List Spelled} : ∀ r ∈ texts ts, r ≠ [] := by
  induction ts with
  | nil => simp [texts]
  | cons t ts ih =>
    intro r hr
    rw [texts] at hr
    rcases List.mem_cons.mp hr with rfl | hr
    · exact text_ne_nil t
    · exact ih r hr

mutual

/-- The induction is on the spelling; the equations of reading do one constructor each. -/
theorem ofChars_text : ∀ t : Spelled, TypeNode.ofChars table t.text = t.denote table
  | .name n => by
    have hn := @nodeName_eq_denotedName table n ⟨[], by simp [Text.AllBlank]⟩
    rw [List.append_nil] at hn
    rw [text, ofChars_name n.property, hn, denote]
  | .generic n gap left right first rest => by
    have hn : ∀ c ∈ n.val ++ gap.val, c ≠ '<' ∧ c ≠ '«' ∧ c ≠ '»' := by
      intro c hc
      have hs : c ≠ '<' ∧ c ≠ '>' ∧ c ≠ '«' ∧ c ≠ '»' ∧ c ≠ ',' := by
        rcases List.mem_append.mp hc with hc | hc
        · exact n.property.not_special c hc
        · exact blank_not_special gap.property c hc
      exact ⟨hs.1, hs.2.2.1, hs.2.2.2.1⟩
    have hargs : ∀ r ∈ text first :: texts rest, ClosedFrom 0 (r.map plainBracket) ∧ r ≠ [] := by
      intro r hr
      rcases List.mem_cons.mp hr with rfl | hr
      · exact ⟨closed_text first, text_ne_nil first⟩
      · exact ⟨closed_texts rest r hr, ne_nil_of_mem_texts r hr⟩
    rw [text, ofChars_generic hn left.plain_opening right.plain_closing, ofChars_segment hargs,
      nodeName_eq_denotedName, List.map_cons, ofChars_text first, ofChars_texts rest, denote]
  | .array element => by rw [text, ofChars_array, ofChars_text element, denote]
  | .padded before inner after => by
    rw [text, ofChars_surrounded before.property after.property, ofChars_text inner, denote]

theorem ofChars_texts :
    ∀ ts : List Spelled, (texts ts).map (TypeNode.ofChars table) = denoteAll table ts
  | [] => by simp [texts, denoteAll]
  | t :: ts => by rw [texts, List.map_cons, ofChars_text t, ofChars_texts ts, denoteAll]

end

/-- Reading decodes the grammar: the text of a spelling is read as the type that it denotes,
whatever the table. -/
theorem ofString_text_eq_denote (table : TypeTable) (t : Spelled) :
    TypeNode.ofString table (String.ofList t.text) = t.denote table := by
  unfold TypeNode.ofString
  rw [String.toList_ofList]
  exact ofChars_text t

end Spelled
end ClientCompiler.Spelling
