import ClientCompiler.Proofs.Render.Programs

/-!
The text of a client without templates. The packaged templates write just this: code, and between
its parts the comments for what is described.
-/

namespace ClientCompiler.Render

open Template

/-- A part of a generated text: code, or a comment without its opening and closing signs. -/
inductive Segment where
  | code (s : List Char)
  | comment (inner : List Char)
  deriving DecidableEq, Repr

namespace Segment

def text : Segment → List Char
  | .code s => s
  | .comment inner => "/**".toList ++ inner ++ "*/".toList

def ofString (s : String) : Segment := .code s.toList

end Segment

def textOf (segments : List Segment) : List Char := segments.flatMap Segment.text

theorem textOf_cons (a : Segment) (bs : List Segment) : textOf (a :: bs) = a.text ++ textOf bs :=
  List.flatMap_cons

theorem textOf_append (as bs : List Segment) : textOf (as ++ bs) = textOf as ++ textOf bs :=
  List.flatMap_append

theorem textOf_flatMap {α : Type} (f : α → List Segment) (xs : List α) :
    textOf (xs.flatMap f) = xs.flatMap fun x => textOf (f x) := List.flatMap_assoc

def ifFilled {α : Type} (text : Option String) (f : String → List α) : List α :=
  match text with
  | none => []
  | some s => if s = "" then [] else f s

theorem textOf_ifFilled (text : Option String) (f : String → List Segment) :
    textOf (ifFilled text f) = ifFilled text fun s => textOf (f s) := by
  cases text with
  | none => rfl
  | some x => by_cases hx : x = "" <;> simp [ifFilled, hx, textOf]

def descriptionComment (indent label description : String) : Segment :=
  .comment ("\n".toList ++ indent.toList ++ " * @".toList ++ label.toList ++ " ".toList ++
    docComment description.toList ++ "\n".toList ++ indent.toList ++ " ".toList)

def described (indent label : String) (text : Option String) : List Segment :=
  ifFilled text fun s => [.ofString indent, descriptionComment indent label s, .ofString "\n"]

def commas (names : List String) : List Char := Value.joined ", ".toList (names.map String.toList)

/-! ## Types -/

def propertySegments (p : Property) : List Segment :=
  described "  " "description" p.description ++
    [.ofString "  ", .code (propertyKey p.name.toList), .ofString (if p.required then "" else "?"),
      .ofString ": ", .ofString p.type, .ofString ";\n"]

def genericsText (generics : List String) : List Char :=
  if generics.isEmpty then [] else "<".toList ++ commas generics ++ ">".toList

def modelSegments (m : Model) : List Segment :=
  described "" "title" m.title ++
    [.ofString "export interface ", .ofString m.name, .code (genericsText m.generics),
      .ofString " \x7b\n"] ++
    m.properties.flatMap propertySegments ++ [.ofString "\x7d\n\n"]

def typesSegments (models : List Model) : List Segment := models.flatMap modelSegments

/-! ## Modules -/

def headerText (imports : List String) : List Char :=
  "import axios from \"axios\";\n".toList ++
    if imports.isEmpty then []
    else "import type \x7b ".toList ++ commas imports ++ " \x7d from \"../types\";\n".toList

def sentNames (o : Operation) (l : Location) : List String :=
  (o.parameters.filter fun p => p.location = l).map Parameter.name

def descriptionLine (description : Option String) : List Char :=
  ifFilled description fun s => "   * @description ".toList ++ docComment s.toList ++ "\n".toList

/-- The lines of the comment of an operation, each with the line end before the next one. -/
def commentLines (o : Operation) : List Char :=
  "\n   * ".toList ++ Text.upper o.method.name.toList ++ " ".toList ++ o.path.toList ++
    "\n".toList ++ descriptionLine o.description

def signatureText (o : Operation) : List Char :=
  "  ".toList ++ o.name.toList ++ "(".toList ++
    Value.joined ", ".toList
      (o.parameters.map fun p => p.name.toList ++ ": ".toList ++ p.type.toList) ++
    ") \x7b\n".toList

def formText (names : List String) : List Char :=
  if names.isEmpty then []
  else "    const _formData = new FormData();\n".toList ++
    names.flatMap fun n =>
      "    _formData.append(\"".toList ++ n.toList ++ "\", ".toList ++ n.toList ++
        " as any);\n".toList

/-- The data that are sent: the first parameter of the body, or the form. -/
def sentText (o : Operation) : List Char :=
  match sentNames o .body with
  | n :: _ => ", ".toList ++ n.toList
  | [] =>
    if (sentNames o .formData).isEmpty then
      if (sentNames o .query).isEmpty then [] else ", undefined".toList
    else ", _formData".toList

def dataText (o : Operation) : List Char :=
  if o.method ∈ [.put, .post, .patch] then sentText o else []

def queryText (names : List String) : List Char :=
  if names.isEmpty then []
  else ", \x7b params: \x7b ".toList ++ commas names ++ " \x7d \x7d".toList

def resultText (type : String) : List Char :=
  if type = "" then [] else "<".toList ++ type.toList ++ ">".toList

def callText (o : Operation) : List Char :=
  "    return axios.".toList ++ o.method.name.toList ++
    resultText o.returnType ++ "(\x60".toList ++ o.path.toList ++ "\x60".toList ++ dataText o ++
    queryText (sentNames o .query) ++ ");\n  \x7d,\n".toList

def operationComment (o : Operation) : Segment := .comment (commentLines o ++ "   ".toList)

def operationSegments (o : Operation) : List Segment :=
  [.ofString "  ", operationComment o, .ofString "\n", .code (signatureText o),
    .code (formText (sentNames o .formData)), .code (callText o)]

def bodySegments (operations : List Operation) : List Segment :=
  .ofString "\x7b\n" :: operations.flatMap operationSegments ++ [.ofString "\x7d\n"]

def moduleSegments (m : ApiModule) : List Segment :=
  [.code (headerText m.imports), .ofString "\n"] ++ described "" "description" m.description ++
    .ofString "export default " :: bodySegments m.operations ++ [.ofString "\n", .ofString "\n"]

/-! ## What the templates write -/

namespace Packaged

variable {s s' u : Frames} {e : Expr} {n : String}

section Filters

theorem means_documented {text : List Char} (h : Means s e (.text text)) :
    Means s (documented e) (.text (docComment text)) := h.filter rfl rfl rfl

theorem means_upper {text : List Char} (h : Means s e (.text text)) :
    Means s (.filter "upper" e [] []) (.text (Text.upper text)) := h.filter rfl rfl rfl

theorem means_key {name : String} (h : Means s e (.ofString name)) :
    ∃ d, Means s (.filter "ts_property" e [] []) d ∧ d.render s.chance = propertyKey name.toList := by
  by_cases hkey : isKey name.toList = true
  · refine ⟨_, h.filter rfl rfl (a := .ofString name) ?_, ?_⟩
    · simp [Datum.filtered, Datum.filteredAlone, Datum.bindArguments, Datum.propertyKey,
        Datum.ofString, Datum.text?, hkey, bind, Except.bind]
    · simp [propertyKey, hkey]
  · refine ⟨_, h.filter rfl rfl (a := .text (propertyKey name.toList)) ?_, rfl⟩
    simp [Datum.filtered, Datum.filteredAlone, Datum.bindArguments, Datum.propertyKey,
      Datum.ofString, Datum.text?, hkey, bind, Except.bind]

theorem means_listed {names : List String} (h : Means s e (listOf Datum.ofString names)) :
    Means s (listed e) (.text (commas names)) := by
  have hsteps : (names.map Datum.ofString).mapM (fun d => d.follow []) =
      (.ok (names.map Datum.ofString) : Rendering (List Datum)) := by
    have hpure := List.mapM_pure (m := Except RenderFault) (f := @id Datum)
      (l := names.map Datum.ofString)
    rw [List.map_id] at hpure
    exact hpure
  have hrender : (names.map Datum.ofString).map (Datum.render s.chance) =
      names.map String.toList := by
    rw [List.map_map]
    rfl
  have hargs : evalAll s.meaning [.const (.text ", ".toList)] = .ok [.text ", ".toList] := rfl
  refine h.filter hargs rfl ?_
  simp [Datum.filtered, Datum.filteredAlone, Datum.bindArguments, Datum.join, Datum.pathSteps,
    listOf, Datum.items, hsteps, hrender, commas, bind, Except.bind, pure, Except.pure,
    List.lookup_cons]

end Filters

theorem writes_line (s : Frames) (x : String) : Writes s [line x] x.toList s := writes_text s _

theorem means_field {kind f : String} {fields : List (String × Datum)} {d : Datum}
    (h : s.find? n = some (.record kind fields)) (hf : fields.lookup f = some d) :
    Means s (field n f) d :=
  (means_name h).access (Datum.attributeNamed_record_of_lookup hf)

theorem writes_when {d : Datum} {yes : List Node} {t : List Char} (h : Means s e d)
    (hyes : d.truthy = true → Writes s yes t s) :
    Writes s [when e yes] (if d.truthy then t else []) s := by
  refine writes_branch h ?_
  split
  · next hd => exact hyes hd
  · exact writes_nil s

theorem writes_either {α : Type} {f : α → Datum} {xs : List α} {yes no : List Node}
    {t t' : List Char} (h : Means s e (listOf f xs)) (hyes : xs ≠ [] → Writes s yes t s)
    (hno : Writes s no t' s) :
    Writes s [.branch e yes no] (if xs.isEmpty then t' else t) s := by
  refine writes_branch h ?_
  cases xs with
  | nil => exact hno
  | cons x xs => exact hyes (List.cons_ne_nil _ _)

theorem writes_listed {α : Type} {f : α → Datum} {xs : List α} {yes : List Node} {t : List Char}
    (h : Means s e (listOf f xs)) (hyes : xs ≠ [] → Writes s yes t s) :
    Writes s [when e yes] (if xs.isEmpty then [] else t) s :=
  writes_either h hyes (writes_nil s)

theorem writes_ifFilled {text : Option String} {yes : List Node} {t : String → List Char}
    (h : Means s e (.ofOption text)) (hyes : ∀ x, text = some x → Writes s yes (t x) s) :
    Writes s [when e yes] (ifFilled text t) s := by
  cases text with
  | none => exact writes_when (t := []) h nofun
  | some x =>
    refine (writes_when h fun _ => hyes x rfl).of_eq ?_
    by_cases hx : x = "" <;> simp [ifFilled, hx, Datum.ofOption]

theorem writes_described (indent label opening closing : String) {text : Option String}
    (h : Means s e (.ofOption text))
    (hopening : opening.toList =
      indent.toList ++ "/**\n".toList ++ indent.toList ++ " * @".toList ++ label.toList ++ " ".toList)
    (hclosing : closing.toList = "\n".toList ++ indent.toList ++ " */\n".toList) :
    Writes s [when e [line opening, .output (documented e), line closing]]
      (textOf (described indent label text)) s := by
  rw [described, textOf_ifFilled]
  refine writes_ifFilled h fun x hx => ?_
  subst hx
  refine ((writes_line s opening).cons ((writes_output (means_documented h)).cons
    (writes_line s closing))).of_eq ?_
  simp [textOf, descriptionComment, Segment.text, Segment.ofString, hopening, hclosing]

theorem writes_property {p : Property} (h : s.find? "prop" = some (propertyDatum p)) :
    Writes s propertyNodes (textOf (propertySegments p)) s := by
  have hdescription : Means s (field "prop" "description") (.ofOption p.description) :=
    means_field h rfl
  have hname : Means s (field "prop" "name") (.ofString p.name) := means_field h rfl
  have hrequired : Means s (field "prop" "required") (.bool p.required) := means_field h rfl
  have htype : Means s (field "prop" "type") (.ofString p.type) := means_field h rfl
  have hcomment := writes_described "  " "description" "  /**\n   * @description " "\n   */\n"
    hdescription (by decide) (by decide)
  obtain ⟨key, hkey, hrender⟩ := means_key hname
  have hmark := writes_when hrequired.negation fun _ => writes_line s "?"
  have hline := (writes_line s "  ").cons ((writes_output hkey).cons (hmark.cons
    ((writes_line s ": ").cons ((writes_output htype).cons (writes_line s ";\n")))))
  refine (hcomment.cons hline).of_eq ?_
  rw [propertySegments, textOf_append, hrender]
  cases p.required <;> simp [textOf, Segment.text, Segment.ofString, Datum.truthy]

theorem writes_model {m : Model} (h : s.find? "model" = some (modelDatum m)) :
    Writes s modelNodes (textOf (modelSegments m)) s := by
  have htitle : Means s (field "model" "title") (.ofOption m.title) := means_field h rfl
  have hname : Means s (field "model" "name") (.ofString m.name) := means_field h rfl
  have hgenerics : Means s (field "model" "generics") (listOf Datum.ofString m.generics) :=
    means_field h rfl
  have hproperties : Means s (field "model" "properties") (listOf propertyDatum m.properties) :=
    means_field h rfl
  have hcomment := writes_described "" "title" "/**\n * @title " "\n */\n" htitle (by decide)
    (by decide)
  have hbrackets := writes_listed hgenerics fun _ => (writes_line s "<").cons
    ((writes_output (means_listed hgenerics)).cons (writes_line s ">"))
  have hloop := writes_each "prop" propertyNodes [] (fun p => textOf (propertySegments p))
    hproperties fun i p => ⟨_, writes_property (find?_turn_self (by decide) _ _ _ _)⟩
  refine (hcomment.cons ((writes_line s "export interface ").cons ((writes_output hname).cons
    (hbrackets.cons ((writes_line s " \x7b\n").cons (hloop.cons
      (writes_line s "\x7d\n\n"))))))).of_eq ?_
  rw [modelSegments, textOf_append, textOf_append, textOf_append, textOf_flatMap]
  simp [textOf, Segment.text, Segment.ofString, genericsText]

/-- The types of a client are written as they are printed, whatever the chance. -/
theorem typesText_eq (chance : Chance) (models : List Model) :
    typesText chance models = .ok (textOf (typesSegments models)) := by
  let given : Names := [("models", listOf modelDatum models)]
  have hmodels : Means (outset chance given typesProgram) (.name "models")
      (listOf modelDatum models) := means_given rfl rfl
  have hloop := writes_each "model" modelNodes [] (fun m => textOf (modelSegments m)) hmodels
    fun i m => ⟨_, writes_model (find?_turn_self (by decide) _ _ _ _)⟩
  rw [← textOf_flatMap] at hloop
  have hrender : render chance typesProgram given = .ok (textOf (typesSegments models)) :=
    render_eq_ok hloop
  rw [typesText, parse_types, writeOut]
  simp only [Except.bind]
  rw [hrender]
  rfl

end Packaged
end ClientCompiler.Render
