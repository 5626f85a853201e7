import ClientCompiler.Proofs.Render.ModulePrinter
import Mathlib.Data.List.Infix

/-!
Where the comments of a generated text end. A described thing has a comment that ends where its
template ends it, whatever its description. The address of an operation is put into its comment as
it is, so that a closing sign in it ends the comment.
-/

namespace ClientCompiler.Render

/-! ## Reading a comment -/

def closingSign : List Char := ['*', '/']

def afterClosing : List Char → Option (List Char)
  | '*' :: '/' :: cs => some cs
  | _ :: cs => afterClosing cs
  | [] => none

def afterComment : List Char → Option (List Char)
  | '/' :: '*' :: cs => afterClosing cs
  | _ => none

/-- A comment that is over at its own closing sign, and not before. -/
def Segment.Closed : Segment → Prop
  | .code _ => True
  | .comment inner => ∀ rest, afterComment ((Segment.comment inner).text ++ rest) = some rest

section

variable {s t : List Char} {c : Char}

theorem closingSign_starts : closingSign <+: c :: s ↔ c = '*' ∧ s.head? = some '/' := by
  cases s with
  | nil => simp [closingSign, List.cons_prefix_cons]
  | cons d s => simp [closingSign, List.cons_prefix_cons, eq_comm]

theorem afterClosing_cons (h : ¬ closingSign <+: c :: s) : afterClosing (c :: s) = afterClosing s := by
  rw [afterClosing]
  rintro rest rfl rfl
  exact h (closingSign_starts.mpr ⟨rfl, rfl⟩)

/-- A closing sign is the first one if it does not follow another one and its star does not end
another one. -/
theorem afterClosing_append (h : ¬ closingSign <:+: s ++ ['*']) (rest : List Char) :
    afterClosing (s ++ '*' :: '/' :: rest) = some rest := by
  induction s with
  | nil => rfl
  | cons c s ih =>
    rw [List.cons_append, List.infix_cons_iff, not_or, closingSign_starts] at h
    rw [List.cons_append, afterClosing_cons, ih h.2]
    rw [closingSign_starts]
    cases s <;> exact h.1

theorem afterClosing_early (h : closingSign <:+: s ++ ['*']) (rest : List Char) :
    ∃ early, afterClosing (s ++ '*' :: '/' :: rest) = some early ∧ rest.length < early.length := by
  induction s with
  | nil => exact absurd h (by decide)
  | cons c s ih =>
    by_cases hnow : closingSign <+: c :: (s ++ ['*'])
    · obtain ⟨rfl, hnext⟩ := closingSign_starts.mp hnow
      cases s with
      | nil => simp at hnext
      | cons d s =>
        obtain rfl : d = '/' := by simpa using hnext
        refine ⟨_, rfl, ?_⟩
        simp
        omega
    · have hlater : closingSign <:+: s ++ ['*'] := (List.infix_cons_iff.mp h).resolve_left hnow
      rw [List.cons_append, afterClosing_cons]
      · exact ih hlater
      · rw [closingSign_starts] at hnow ⊢
        cases s <;> exact hnow

theorem Segment.closed_comment : (Segment.comment s).Closed ↔ ¬ closingSign <:+: '*' :: s ++ ['*'] := by
  have htext (rest : List Char) : afterComment ((Segment.comment s).text ++ rest) =
      afterClosing ('*' :: s ++ '*' :: '/' :: rest) := by
    simp [Segment.text, afterComment]
  constructor
  · intro hclosed hsign
    obtain ⟨early, hearly, hlength⟩ := afterClosing_early hsign []
    obtain rfl : [] = early := Option.some.inj ((hclosed []).symm.trans ((htext []).trans hearly))
    exact Nat.lt_irrefl _ hlength
  · intro hsign rest
    exact (htext rest).trans (afterClosing_append hsign rest)

/-! ## Closing signs in the parts of a text -/

theorem closingSign_separated (hstar : c ≠ '*') (hslash : c ≠ '/') :
    closingSign <:+: s ++ c :: t ↔ closingSign <:+: s ∨ closingSign <:+: t := by
  induction s with
  | nil =>
    have hnil : ¬ closingSign <:+: [] := by decide
    simp [List.infix_cons_iff, closingSign_starts, hstar, hnil]
  | cons d s ih =>
    rw [List.cons_append, List.infix_cons_iff, List.infix_cons_iff, ih, closingSign_starts,
      closingSign_starts, or_assoc]
    cases s with
    | nil => simp [hslash]
    | cons e s => rfl

theorem head?_escapeClosing (s : List Char) : (escapeClosing s).head? = s.head? := by
  fun_cases escapeClosing s <;> rfl

/-- The induction follows the escapes: a slash after a star has a backslash before it. -/
theorem closingSign_escapeClosing (s : List Char) : ¬ closingSign <:+: escapeClosing s := by
  fun_induction escapeClosing s with
  | case1 cs ih => simp [List.infix_cons_iff, closingSign_starts, ih]
  | case2 c cs hescaped ih =>
    rw [List.infix_cons_iff, not_or, closingSign_starts, head?_escapeClosing]
    refine ⟨?_, ih⟩
    rintro ⟨rfl, hnext⟩
    obtain ⟨rest, rfl⟩ := List.head?_eq_some_iff.mp hnext
    exact hescaped rest rfl rfl
  | case3 => decide

theorem closingSign_star : ¬ closingSign <:+: ['*'] := by decide

theorem closingSign_docComment (s : List Char) : ¬ closingSign <:+: docComment s :=
  closingSign_escapeClosing _

end

/-! ## The comments of a client -/

def AllClosed (parts : List Segment) : Prop := ∀ part ∈ parts, part.Closed

variable {parts others : List Segment}

@[simp] theorem closed_code (s : List Char) : (Segment.code s).Closed := trivial

@[simp] theorem closed_ofString (s : String) : (Segment.ofString s).Closed := trivial

@[simp] theorem allClosed_nil : AllClosed [] := nofun

@[simp] theorem allClosed_cons {part : Segment} :
    AllClosed (part :: parts) ↔ part.Closed ∧ AllClosed parts := List.forall_mem_cons

@[simp] theorem allClosed_append :
    AllClosed (parts ++ others) ↔ AllClosed parts ∧ AllClosed others := List.forall_mem_append

theorem allClosed_flatMap {α : Type} {f : α → List Segment} {xs : List α}
    (h : ∀ x, AllClosed (f x)) : AllClosed (xs.flatMap f) := by
  intro part hpart
  obtain ⟨x, -, hpart⟩ := List.mem_flatMap.mp hpart
  exact h x part hpart

theorem allClosed_ifFilled {text : Option String} {f : String → List Segment}
    (h : ∀ x, AllClosed (f x)) : AllClosed (ifFilled text f) := by
  cases text with
  | none => exact allClosed_nil
  | some x =>
    rw [ifFilled]
    split
    · exact allClosed_nil
    · exact h x

theorem descriptionComment_closed {indent label : String} (description : String)
    (hindent : ¬ closingSign <:+: indent.toList)
    (hlabel : ¬ closingSign <:+: indent.toList ++ " * @".toList ++ label.toList) :
    (descriptionComment indent label description).Closed := by
  have hparts : '*' :: ("\n".toList ++ indent.toList ++ " * @".toList ++ label.toList ++
      " ".toList ++ docComment description.toList ++ "\n".toList ++ indent.toList ++ " ".toList) ++
      ['*'] = ['*'] ++ '\n' :: ((indent.toList ++ " * @".toList ++ label.toList) ++ ' ' ::
        (docComment description.toList ++ '\n' :: (indent.toList ++ ' ' :: ['*']))) := by
    simp
  rw [descriptionComment, Segment.closed_comment, hparts,
    closingSign_separated (by decide) (by decide), closingSign_separated (by decide) (by decide),
    closingSign_separated (by decide) (by decide), closingSign_separated (by decide) (by decide)]
  simp only [closingSign_star, hindent, hlabel, closingSign_docComment, or_self, not_false_iff]

theorem described_closed {indent label : String} (text : Option String)
    (hindent : ¬ closingSign <:+: indent.toList)
    (hlabel : ¬ closingSign <:+: indent.toList ++ " * @".toList ++ label.toList) :
    AllClosed (described indent label text) :=
  allClosed_ifFilled fun x => by simp [descriptionComment_closed x hindent hlabel]

theorem propertySegments_closed (p : Property) : AllClosed (propertySegments p) := by
  have hdescription : AllClosed (described "  " "description" p.description) :=
    described_closed _ (by decide) (by decide)
  simp [propertySegments, hdescription]

theorem modelSegments_closed (m : Model) : AllClosed (modelSegments m) := by
  have htitle : AllClosed (described "" "title" m.title) :=
    described_closed _ (by decide) (by decide)
  have hproperties : AllClosed (m.properties.flatMap propertySegments) :=
    allClosed_flatMap propertySegments_closed
  simp [modelSegments, htitle, hproperties]

theorem closingSign_descriptionLine (description : Option String) :
    ¬ closingSign <:+: descriptionLine description ++ "   *".toList := by
  cases description with
  | none => decide
  | some x =>
    rw [descriptionLine, ifFilled]
    split
    · decide
    · have hlabel : "   * @description ".toList = "   * @description".toList ++ [' '] := by decide
      have hparts : "   * @description ".toList ++ docComment x.toList ++ ['\n'] ++
          "   *".toList = "   * @description".toList ++ ' ' ::
            (docComment x.toList ++ '\n' :: "   *".toList) := by
        rw [hlabel]
        simp only [List.append_assoc, List.cons_append, List.nil_append]
      have hopening : ¬ closingSign <:+: "   * @description".toList := by decide
      have hlast : ¬ closingSign <:+: "   *".toList := by decide
      have hend : "\n".toList = ['\n'] := by decide
      rw [hend, hparts, closingSign_separated (by decide) (by decide),
        closingSign_separated (by decide) (by decide)]
      simp only [hopening, hlast, closingSign_docComment, or_self, not_false_iff]

theorem operationComment_closed (o : Operation) :
    (operationComment o).Closed ↔ ¬ closingSign <:+: o.path.toList := by
  have hmethod : ¬ closingSign <:+: "   * ".toList ++ Text.upper o.method.name.toList := by
    cases o.method <;> decide
  have hparts : '*' :: (commentLines o ++ "   ".toList) ++ ['*'] = ['*'] ++ '\n' ::
      (("   * ".toList ++ Text.upper o.method.name.toList) ++ ' ' :: (o.path.toList ++ '\n' ::
        (descriptionLine o.description ++ "   *".toList))) := by
    have hopening : "\n   * ".toList = '\n' :: "   * ".toList := by decide
    have hspace : " ".toList = [' '] := by decide
    have hend : "\n".toList = ['\n'] := by decide
    have hlast : "   *".toList = "   ".toList ++ ['*'] := by decide
    unfold commentLines
    simp only [hopening, hspace, hend, hlast, List.append_assoc, List.cons_append, List.nil_append]
  rw [operationComment, Segment.closed_comment, hparts,
    closingSign_separated (by decide) (by decide), closingSign_separated (by decide) (by decide),
    closingSign_separated (by decide) (by decide)]
  simp only [closingSign_star, hmethod, closingSign_descriptionLine, false_or, or_false]

theorem closed_or_operationComment {m : ApiModule} {part : Segment}
    (h : part ∈ moduleSegments m) :
    part.Closed ∨ ∃ o ∈ m.operations, part = operationComment o := by
  have hdescription : AllClosed (described "" "description" m.description) :=
    described_closed _ (by decide) (by decide)
  have hbody (h : part ∈ bodySegments m.operations) :
      part.Closed ∨ ∃ o ∈ m.operations, part = operationComment o := by
    simp only [bodySegments, List.mem_append, List.mem_cons, List.mem_flatMap, operationSegments,
      List.not_mem_nil, or_false] at h
    obtain (rfl | ⟨o, ho, rfl | rfl | rfl | rfl | rfl | rfl⟩) | rfl := h
    case inl.inr.inr.inl => exact .inr ⟨o, ho, rfl⟩
    all_goals exact .inl trivial
  simp only [moduleSegments, List.mem_append, List.mem_cons, List.not_mem_nil, or_false] at h
  obtain (((rfl | rfl) | h) | (rfl | h)) | (rfl | rfl) := h
  case inl.inl.inr => exact .inl (hdescription part h)
  case inl.inr.inr => exact hbody h
  all_goals exact .inl trivial

/-- The templates write comments that end at their own closing signs, whatever the titles and the
descriptions are, but for those of operations with a closing sign in the path. -/
theorem comments_closed (chance : Template.Chance) (models : List Model) (m : ApiModule) :
    (typesText chance models = .ok (textOf (typesSegments models)) ∧
      ∀ part ∈ typesSegments models, part.Closed) ∧
    (readTemplates Packaged.slots >>= fun templates => moduleText chance templates m) =
      .ok (textOf (moduleSegments m)) ∧
    ∀ part ∈ moduleSegments m, part.Closed ↔
      ∀ o ∈ m.operations, part = operationComment o → ¬ closingSign <:+: o.path.toList := by
  refine ⟨⟨Packaged.typesText_eq chance models, allClosed_flatMap modelSegments_closed⟩,
    moduleText_eq chance m, fun part hpart => ⟨?_, fun hpaths => ?_⟩⟩
  · rintro hclosed o - rfl
    exact (operationComment_closed o).mp hclosed
  · obtain hclosed | ⟨o, ho, rfl⟩ := closed_or_operationComment hpart
    · exact hclosed
    · exact (operationComment_closed o).mpr (hpaths o ho rfl)

def starred : Operation := ⟨"f", .get, "/a*/b", none, "", []⟩

/-- The comment of an operation ends inside its path, and what is left of the comment is code. -/
theorem comment_ended_by_path :
    (readTemplates Packaged.slots >>= fun templates =>
      moduleText (.constant 0) templates ⟨"m", none, [starred], []⟩) =
        .ok ("import axios from \"axios\";\n\nexport default \x7b\n  ".toList ++
          (operationComment starred).text ++
          "\n  f() \x7b\n    return axios.get(\x60/a*/b\x60);\n  \x7d,\n\x7d\n\n\n".toList) ∧
    ¬ (operationComment starred).Closed ∧
    ∀ rest, afterComment ((operationComment starred).text ++ rest) =
      some ("b\n   */".toList ++ rest) := by
  have hsign : closingSign <:+: starred.path.toList := by decide
  refine ⟨(moduleText_eq _ _).trans (congrArg _ (by decide +kernel)), fun hclosed => ?_,
    fun rest => rfl⟩
  exact (operationComment_closed starred).mp hclosed hsign

end ClientCompiler.Render
