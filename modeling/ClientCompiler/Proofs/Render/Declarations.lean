import ClientCompiler.Proofs.Render.Listing

/-!
The types that are meant. Every model is declared as an interface, with a member for each of its
properties, and the declarations follow each other line by line in the order of the models.
-/

namespace ClientCompiler.Render

/-- A member of an interface; its key is written already. -/
structure Member where
  description : Option String
  key : List Char
  optional : Bool
  type : String
  deriving DecidableEq, Repr

structure Declaration where
  title : Option String
  name : String
  generics : List String
  members : List Member
  deriving DecidableEq, Repr

/-! ## Lines -/

def unlines (lines : List (List Char)) : List Char := lines.flatMap fun l => l ++ "\n".toList

def labelledLines (indent label : String) (text : Option String) : List (List Char) :=
  text.toList.flatMap fun s =>
    [indent.toList ++ "/**".toList,
      indent.toList ++ " * @".toList ++ label.toList ++ " ".toList ++ docComment s.toList,
      indent.toList ++ " */".toList]

def Member.line (m : Member) : List Char :=
  "  ".toList ++ m.key ++ (if m.optional then "?".toList else []) ++ ": ".toList ++
    m.type.toList ++ ";".toList

def Member.lines (m : Member) : List (List Char) :=
  labelledLines "  " "description" m.description ++ [m.line]

def Declaration.heading (d : Declaration) : List Char :=
  "export interface ".toList ++ d.name.toList ++ genericsText d.generics ++ " \x7b".toList

def Declaration.lines (d : Declaration) : List (List Char) :=
  labelledLines "" "title" d.title ++ [d.heading] ++ d.members.flatMap Member.lines ++
    ["\x7d".toList, []]

/-! ## What is declared -/

def member (p : Property) : Member where
  description := filled p.description
  key := propertyKey p.name.toList
  optional := !p.required
  type := p.type

def declaration (m : Model) : Declaration where
  title := filled m.title
  name := m.name
  generics := m.generics
  members := m.properties.map member

/-! ## The text that is printed -/

theorem unlines_append (ls ms : List (List Char)) :
    unlines (ls ++ ms) = unlines ls ++ unlines ms := List.flatMap_append

theorem unlines_cons (l : List Char) (ls : List (List Char)) :
    unlines (l :: ls) = l ++ "\n".toList ++ unlines ls := List.flatMap_cons

theorem unlines_nil : unlines [] = [] := rfl

theorem unlines_flatMap {α : Type} (f : α → List (List Char)) (xs : List α) :
    unlines (xs.flatMap f) = xs.flatMap fun x => unlines (f x) := List.flatMap_assoc

theorem textOf_nil : textOf [] = [] := rfl

theorem unlines_labelledLines (indent label : String) (text : Option String) :
    unlines (labelledLines indent label (filled text)) = textOf (described indent label text) := by
  rw [described, textOf_ifFilled, ifFilled_eq, labelledLines]
  cases filled text with
  | none => rfl
  | some s =>
    have hclosing : " */".toList = " ".toList ++ "*/".toList := by decide
    rw [Option.toList_some, List.flatMap_singleton, List.flatMap_singleton]
    simp only [unlines_cons, unlines_nil, textOf_cons, textOf_nil, hclosing, descriptionComment,
      Segment.text, Segment.ofString, List.append_assoc, List.append_nil]

theorem line_member (p : Property) :
    (member p).line = "  ".toList ++ propertyKey p.name.toList ++
      (if p.required then "" else "?").toList ++ ": ".toList ++ p.type.toList ++ ";".toList := by
  unfold Member.line member
  cases p.required <;> rfl

theorem unlines_member (p : Property) :
    unlines (member p).lines = textOf (propertySegments p) := by
  have hend : ";\n".toList = ";".toList ++ "\n".toList := by decide
  have hcomment := unlines_labelledLines "  " "description" p.description
  rw [Member.lines, unlines_append, line_member, propertySegments, textOf_append, ← hcomment]
  simp only [member, unlines_cons, unlines_nil, hend, textOf_cons, textOf_nil, Segment.text,
    Segment.ofString, List.append_assoc, List.append_nil]

theorem unlines_heading (m : Model) :
    unlines [(declaration m).heading] = textOf [.ofString "export interface ", .ofString m.name,
      .code (genericsText m.generics), .ofString " \x7b\n"] := by
  have hheading : (declaration m).heading = "export interface ".toList ++ m.name.toList ++
      genericsText m.generics ++ " \x7b".toList := rfl
  have hopening : " \x7b\n".toList = " \x7b".toList ++ "\n".toList := by decide
  simp only [hheading, unlines_cons, unlines_nil, hopening, textOf_cons, textOf_nil, Segment.text,
    Segment.ofString, List.append_assoc, List.append_nil]

theorem unlines_members (m : Model) :
    unlines ((declaration m).members.flatMap Member.lines) =
      textOf (m.properties.flatMap propertySegments) := by
  rw [unlines_flatMap, textOf_flatMap, declaration, List.flatMap_map]
  simp only [unlines_member]

theorem unlines_declaration (m : Model) :
    unlines (declaration m).lines = textOf (modelSegments m) := by
  have htitle : unlines (labelledLines "" "title" (declaration m).title) =
      textOf (described "" "title" m.title) := unlines_labelledLines "" "title" m.title
  have hend : unlines ["\x7d".toList, []] = textOf [.ofString "\x7d\n\n"] := by decide
  rw [Declaration.lines, unlines_append, unlines_append, unlines_append, htitle, unlines_heading,
    unlines_members, hend, modelSegments, textOf_append, textOf_append, textOf_append]

theorem typesText_declarations (chance : Template.Chance) (models : List Model) :
    typesText chance models = .ok (models.flatMap fun m => unlines (declaration m).lines) := by
  rw [Packaged.typesText_eq, typesSegments, textOf_flatMap]
  simp only [unlines_declaration]

/-! ## What is meant by a declaration -/

structure Member.Of (p : Property) (m : Member) : Prop where
  description : ∀ s, m.description = some s ↔ p.description = some s ∧ s ≠ ""
  key : m.key = propertyKey p.name.toList
  optional : m.optional = true ↔ p.required = false
  type : m.type = p.type

/-- A declaration is that of a model: what it is called, and a member for each property in order. -/
structure Declaration.Of (m : Model) (d : Declaration) : Prop where
  title : ∀ s, d.title = some s ↔ m.title = some s ∧ s ≠ ""
  name : d.name = m.name
  generics : d.generics = m.generics
  members : List.Forall₂ Member.Of m.properties d.members

theorem of_member (p : Property) : (member p).Of p where
  description _ := filled_eq_some
  key := rfl
  optional := by rw [member, Bool.not_eq_true']
  type := rfl

theorem of_declaration (m : Model) : (declaration m).Of m where
  title _ := filled_eq_some
  name := rfl
  generics := rfl
  members := List.forall₂_map_right_iff.mpr (List.forall₂_same.mpr fun p _ => of_member p)

/-- The text of two lists of models is the text of the first and then that of the second, and the
text of a model is its declaration, line by line. -/
theorem declarations_compositional (chance : Template.Chance) (a b : List Model) (m : Model) :
    (∃ s t, typesText chance a = .ok s ∧ typesText chance b = .ok t ∧
        typesText chance (a ++ b) = .ok (s ++ t)) ∧
      typesText chance [m] = .ok (unlines (declaration m).lines) ∧ (declaration m).Of m := by
  refine ⟨⟨_, _, typesText_declarations chance a, typesText_declarations chance b, ?_⟩, ?_,
    of_declaration m⟩
  · rw [typesText_declarations, List.flatMap_append]
  · rw [typesText_declarations, List.flatMap_singleton]

example : unlines (declaration ⟨"Page", some "", ["T"],
      [⟨"id", "number", true, some "the key"⟩, ⟨"page-size", "T[]", false, none⟩]⟩).lines =
    ("export interface Page<T> \x7b\n  /**\n   * @description the key\n   */\n  id: number;\n" ++
      "  \"page-size\"?: T[];\n\x7d\n\n").toList := by
  decide +kernel

end ClientCompiler.Render
