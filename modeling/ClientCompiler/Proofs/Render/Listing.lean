import ClientCompiler.Proofs.Render.ModulePrinter

/-!
The client that is meant. A module has imports and procedures, and a procedure has statements, of
which the last is a call. What the packaged templates write is this, written out. The arguments of
the call stand at fixed places: the address first, then the data if there are any, and the settings
last, which are third wherever a method sends data.
-/

namespace ClientCompiler.Render

/-- What is passed to a call: the address, data to send, or settings with the names of the query. -/
inductive Argument where
  | address (path : String)
  | value (name : String)
  | form
  | undefined
  | settings (names : List String)
  deriving DecidableEq, Repr

inductive Statement where
  | openForm
  | fill (name : String)
  | call (method : Method) (result : String) (arguments : List Argument)
  deriving DecidableEq, Repr

inductive Import where
  | axios
  | types (names : List String)
  deriving DecidableEq, Repr

structure Procedure where
  method : Method
  path : String
  description : Option String
  name : String
  parameters : List (String × String)
  statements : List Statement

structure Listing where
  imports : List Import
  description : Option String
  procedures : List Procedure

/-! ## Texts -/

def Argument.text : Argument → List Char
  | address path => "\x60".toList ++ path.toList ++ "\x60".toList
  | value name => name.toList
  | form => "_formData".toList
  | undefined => "undefined".toList
  | settings names => "\x7b params: \x7b ".toList ++ commas names ++ " \x7d \x7d".toList

def Statement.text : Statement → List Char
  | openForm => "    const _formData = new FormData();\n".toList
  | fill name => "    _formData.append(\"".toList ++ name.toList ++ "\", ".toList ++ name.toList ++
      " as any);\n".toList
  | call method result arguments => "    return axios.".toList ++ method.name.toList ++
      resultText result ++ "(".toList ++ Value.joined ", ".toList (arguments.map Argument.text) ++
      ");\n".toList

def Import.text : Import → List Char
  | axios => "import axios from \"axios\";\n".toList
  | types names => "import type \x7b ".toList ++ commas names ++ " \x7d from \"../types\";\n".toList

def descriptionLines (description : Option String) : List (List Char) :=
  description.toList.map fun s => "@description ".toList ++ docComment s.toList

def commentText (indent : String) (lines : List (List Char)) : List Char :=
  indent.toList ++ "/**\n".toList ++
    lines.flatMap (fun l => indent.toList ++ " * ".toList ++ l ++ "\n".toList) ++
    indent.toList ++ " */\n".toList

def Procedure.text (p : Procedure) : List Char :=
  commentText "  " ((Text.upper p.method.name.toList ++ " ".toList ++ p.path.toList) ::
      descriptionLines p.description) ++
    "  ".toList ++ p.name.toList ++ "(".toList ++
    Value.joined ", ".toList (p.parameters.map fun q => q.1.toList ++ ": ".toList ++ q.2.toList) ++
    ") \x7b\n".toList ++ p.statements.flatMap Statement.text ++ "  \x7d,\n".toList

def Listing.text (l : Listing) : List Char :=
  l.imports.flatMap Import.text ++ "\n".toList ++
    (if l.description.isSome then commentText "" (descriptionLines l.description) else []) ++
    "export default \x7b\n".toList ++ l.procedures.flatMap Procedure.text ++ "\x7d\n\n\n".toList

/-! ## What is listed -/

def sendsData (method : Method) : Bool := method ∈ [.put, .post, .patch]

/-- The data that a call passes: the first parameter of the body, or the form. If there are neither,
but names of a query, nothing is passed in the place of data. -/
def data? (o : Operation) : Option Argument :=
  if sendsData o.method then
    match sentNames o .body with
    | name :: _ => some (.value name)
    | [] =>
      if sentNames o .formData ≠ [] then some .form
      else if sentNames o .query ≠ [] then some .undefined
      else none
  else none

def settings? (o : Operation) : Option Argument :=
  if sentNames o .query = [] then none else some (.settings (sentNames o .query))

def arguments (o : Operation) : List Argument :=
  .address o.path :: ((data? o).toList ++ (settings? o).toList)

def formStatements (names : List String) : List Statement :=
  if names = [] then [] else .openForm :: names.map .fill

def statements (o : Operation) : List Statement :=
  formStatements (sentNames o .formData) ++ [.call o.method o.returnType (arguments o)]

def filled (description : Option String) : Option String := description.filter (· ≠ "")

def procedure (o : Operation) : Procedure where
  method := o.method
  path := o.path
  description := filled o.description
  name := o.name
  parameters := o.parameters.map fun p => (p.name, p.type)
  statements := statements o

def listing (m : ApiModule) : Listing where
  imports := if m.imports = [] then [.axios] else [.axios, .types m.imports]
  description := filled m.description
  procedures := m.operations.map procedure

/-! ## The text that is printed -/

theorem ifFilled_eq {α : Type} (text : Option String) (f : String → List α) :
    ifFilled text f = (filled text).toList.flatMap f := by
  cases text with
  | none => rfl
  | some s =>
    rw [ifFilled, filled, Option.filter_some]
    by_cases hs : s = ""
    · rw [if_pos hs, if_neg (by simpa using hs)]
      rfl
    · rw [if_neg hs, if_pos (by simpa using hs)]
      exact (List.append_nil _).symm

theorem Import.text_axios : Import.axios.text = "import axios from \"axios\";\n".toList := rfl

theorem Import.text_types (names : List String) :
    (Import.types names).text =
      "import type \x7b ".toList ++ commas names ++ " \x7d from \"../types\";\n".toList := rfl

theorem text_imports (m : ApiModule) :
    (listing m).imports.flatMap Import.text = headerText m.imports := by
  rcases hm : m.imports with _ | ⟨n, ns⟩
  · have h : (listing m).imports = [.axios] := by simp [listing, hm]
    rw [h, List.flatMap_singleton, Import.text_axios]
    unfold headerText
    rw [List.isEmpty_nil, if_pos rfl, List.append_nil]
  · have h : (listing m).imports = [.axios, .types (n :: ns)] := by simp [listing, hm]
    rw [h, List.flatMap_cons, List.flatMap_singleton, Import.text_axios, Import.text_types]
    unfold headerText
    rw [List.isEmpty_cons, if_neg Bool.false_ne_true]

theorem commentText_eq (indent : String) (lines : List (List Char)) :
    commentText indent lines = indent.toList ++
      ((Segment.comment ("\n".toList ++
          (lines.flatMap (fun l => indent.toList ++ " * ".toList ++ l ++ "\n".toList) ++
            (indent.toList ++ " ".toList)))).text ++ "\n".toList) := by
  have hopening : "/**\n".toList = "/**".toList ++ "\n".toList := by decide
  have hclosing : " */\n".toList = " ".toList ++ ("*/".toList ++ "\n".toList) := by decide
  unfold commentText Segment.text
  simp only [hopening, hclosing, List.append_assoc]

theorem text_description (description : Option String) :
    (if (filled description).isSome then commentText "" (descriptionLines (filled description))
      else []) = textOf (described "" "description" description) := by
  rw [described, textOf_ifFilled, ifFilled_eq]
  cases filled description with
  | none => rfl
  | some s =>
    have hlabel : " * @".toList ++ ("description".toList ++ " ".toList) =
        " * ".toList ++ "@description ".toList := by decide
    rw [Option.isSome_some, if_pos rfl, commentText_eq]
    unfold descriptionLines textOf descriptionComment Segment.ofString
    simp only [Option.toList_some, List.map_cons, List.map_nil, List.flatMap_cons,
      List.flatMap_nil, List.append_nil, Segment.text, List.append_assoc]
    rw [← List.append_assoc "description".toList, ← List.append_assoc " * @".toList, hlabel,
      List.append_assoc]

theorem text_form (names : List String) :
    (formStatements names).flatMap Statement.text = formText names := by
  unfold formText formStatements
  cases names with
  | nil => rfl
  | cons n ns =>
    rw [if_neg (List.cons_ne_nil n ns), List.flatMap_cons, List.flatMap_map, List.isEmpty_cons,
      if_neg Bool.false_ne_true]
    rfl

theorem text_data (o : Operation) :
    (data? o).toList.flatMap (fun a => ", ".toList ++ a.text) = dataText o := by
  have hform : (some Argument.form).toList.flatMap (fun a => ", ".toList ++ a.text) =
      ", _formData".toList := by decide
  have hundefined : (some Argument.undefined).toList.flatMap (fun a => ", ".toList ++ a.text) =
      ", undefined".toList := by decide
  unfold data? dataText sentText sendsData
  by_cases hsends : o.method ∈ [.put, .post, .patch]
  · rw [if_pos hsends, if_pos (decide_eq_true hsends)]
    cases sentNames o .body with
    | cons n ns => exact List.append_nil _
    | nil =>
      cases sentNames o .formData with
      | cons f fs =>
        rw [if_pos (List.cons_ne_nil f fs), List.isEmpty_cons, if_neg Bool.false_ne_true]
        exact hform
      | nil =>
        cases sentNames o .query with
        | nil => rfl
        | cons q qs =>
          rw [if_neg (not_not_intro rfl), if_pos (List.cons_ne_nil q qs)]
          exact hundefined
  · rw [if_neg hsends, if_neg (by simpa using hsends)]
    rfl

theorem text_settings (o : Operation) :
    (settings? o).toList.flatMap (fun a => ", ".toList ++ a.text) =
      queryText (sentNames o .query) := by
  have hopening : ", \x7b params: \x7b ".toList = ", ".toList ++ "\x7b params: \x7b ".toList := by
    decide
  unfold settings? queryText
  cases sentNames o .query with
  | nil => rfl
  | cons n ns =>
    rw [if_neg (List.cons_ne_nil n ns), List.isEmpty_cons, if_neg Bool.false_ne_true,
      Option.toList_some, List.flatMap_singleton, hopening]
    unfold Argument.text
    simp only [List.append_assoc]

theorem text_arguments (o : Operation) :
    Value.joined ", ".toList ((arguments o).map Argument.text) =
      "\x60".toList ++ o.path.toList ++ "\x60".toList ++ dataText o ++
        queryText (sentNames o .query) := by
  have haddress : (Argument.address o.path).text =
      "\x60".toList ++ o.path.toList ++ "\x60".toList := rfl
  rw [arguments, ← text_data, ← text_settings, List.map_cons, ← haddress]
  cases data? o <;> cases settings? o <;>
    simp only [Option.toList_none, Option.toList_some, List.nil_append, List.append_nil,
      List.cons_append, List.map_cons, List.map_nil, List.flatMap_cons, List.flatMap_nil,
      Value.joined, List.append_assoc]

theorem text_statements (o : Operation) :
    (statements o).flatMap Statement.text ++ "  \x7d,\n".toList =
      formText (sentNames o .formData) ++ callText o := by
  have hcall (arguments : List Argument) : (Statement.call o.method o.returnType arguments).text =
      "    return axios.".toList ++ o.method.name.toList ++ resultText o.returnType ++
        "(".toList ++ Value.joined ", ".toList (arguments.map Argument.text) ++ ");\n".toList := rfl
  have hopening : "(\x60".toList = "(".toList ++ "\x60".toList := by decide
  have hclosing : ");\n  \x7d,\n".toList = ");\n".toList ++ "  \x7d,\n".toList := by decide
  rw [statements, List.flatMap_append, text_form, List.flatMap_singleton, hcall, text_arguments]
  unfold callText
  simp only [hopening, hclosing, List.append_assoc]

theorem text_comment (o : Operation) :
    commentText "  " ((Text.upper o.method.name.toList ++ " ".toList ++ o.path.toList) ::
        descriptionLines (filled o.description)) =
      "  ".toList ++ (operationComment o).text ++ "\n".toList := by
  have hfirst : "\n   * ".toList = "\n".toList ++ ("  ".toList ++ " * ".toList) := by decide
  have hline : "   * @description ".toList =
      "  ".toList ++ (" * ".toList ++ "@description ".toList) := by decide
  have hlast : "   ".toList = "  ".toList ++ " ".toList := by decide
  rw [commentText_eq, List.append_assoc]
  unfold operationComment commentLines descriptionLine descriptionLines
  rw [ifFilled_eq]
  cases filled o.description <;>
    simp only [Option.toList_none, Option.toList_some, List.map_cons, List.map_nil,
      List.flatMap_cons, List.flatMap_nil, List.append_nil, List.append_assoc, hfirst, hline, hlast]

theorem Segment.text_code (s : List Char) : (Segment.code s).text = s := rfl

theorem text_procedure (o : Operation) : (procedure o).text = textOf (operationSegments o) := by
  have hparameters : (procedure o).parameters.map
        (fun q => q.1.toList ++ ": ".toList ++ q.2.toList) =
      o.parameters.map fun p => p.name.toList ++ ": ".toList ++ p.type.toList := List.map_map
  rw [Procedure.text, hparameters]
  unfold procedure operationSegments textOf signatureText Segment.ofString
  rw [text_comment]
  simp only [List.append_assoc, text_statements, List.flatMap_cons, List.flatMap_nil,
    List.append_nil, Segment.text_code]

theorem text_listing (m : ApiModule) : (listing m).text = textOf (moduleSegments m) := by
  have hopening : "export default \x7b\n".toList = "export default ".toList ++ "\x7b\n".toList := by
    decide
  have hclosing : "\x7d\n\n\n".toList = "\x7d\n".toList ++ ("\n".toList ++ "\n".toList) := by
    decide
  have hprocedures : (listing m).procedures.flatMap Procedure.text =
      textOf (m.operations.flatMap operationSegments) := by
    rw [textOf_flatMap, listing, List.flatMap_map]
    simp only [text_procedure]
  have hdescription : (if (listing m).description.isSome then
        commentText "" (descriptionLines (listing m).description) else []) =
      textOf (described "" "description" m.description) := text_description m.description
  rw [Listing.text, text_imports, hprocedures, hdescription]
  unfold moduleSegments bodySegments Segment.ofString
  simp only [textOf_append, textOf_cons, Segment.text_code, List.cons_append, List.append_assoc,
    hopening, hclosing]
  rfl

/-! ## What is passed, and where -/

def Argument.isData : Argument → Bool
  | address _ => false
  | settings _ => false
  | _ => true

variable {o : Operation} {a : Argument} {i : Nat}

theorem settings?_eq_some :
    settings? o = some a ↔ sentNames o .query ≠ [] ∧ a = .settings (sentNames o .query) := by
  unfold settings?
  split
  · next hquery => simp [hquery]
  · next hquery => simp [hquery, eq_comm]

theorem isData_of_data? (h : data? o = some a) : a.isData = true := by
  unfold data? at h
  split at h
  · split at h
    · obtain rfl := Option.some.inj h
      rfl
    · split at h
      · obtain rfl := Option.some.inj h
        rfl
      · split at h
        · obtain rfl := Option.some.inj h
          rfl
        · cases h
  · cases h

/-- Where there are settings, data stand before them exactly if the method sends data. -/
theorem isSome_data?_of_query (h : sentNames o .query ≠ []) :
    (data? o).isSome = sendsData o.method := by
  unfold data?
  cases sendsData o.method with
  | false => rfl
  | true =>
    rw [if_pos rfl]
    split
    · rfl
    · split <;> rfl

/-- The address is first, data are second, and settings come after what there is of these. -/
theorem arguments_at : (arguments o)[i]? = some a ↔
    i = 0 ∧ a = .address o.path ∨ i = 1 ∧ data? o = some a ∨
      i = (if (data? o).isSome then 2 else 1) ∧ settings? o = some a := by
  unfold arguments
  cases data? o with
  | none =>
    rcases i with _ | _ | i
    · simp [eq_comm]
    · cases settings? o <;> simp
    · cases settings? o <;> simp
  | some d =>
    rcases i with _ | _ | _ | i
    · simp [eq_comm]
    · simp
    · cases settings? o <;> simp
    · cases settings? o <;> simp

theorem arguments_at_address {path : String} :
    (arguments o)[i]? = some (.address path) ↔ i = 0 ∧ path = o.path := by
  have hdata : data? o ≠ some (.address path) := fun h => nomatch isData_of_data? h
  have hsettings : settings? o ≠ some (.address path) := fun h => nomatch (settings?_eq_some.mp h).2
  rw [arguments_at, Argument.address.injEq]
  simp only [hdata, hsettings, and_false, or_false]

theorem arguments_at_data (ha : a.isData = true) :
    (arguments o)[i]? = some a ↔ i = 1 ∧ data? o = some a := by
  have haddress : a ≠ .address o.path := by
    rintro rfl
    cases ha
  have hsettings : settings? o ≠ some a := by
    intro h
    rw [(settings?_eq_some.mp h).2] at ha
    cases ha
  rw [arguments_at]
  simp only [haddress, hsettings, and_false, or_false, false_or]

theorem arguments_at_settings {names : List String} :
    (arguments o)[i]? = some (.settings names) ↔
      i = (if sendsData o.method then 2 else 1) ∧ names = sentNames o .query ∧ names ≠ [] := by
  have hdata : data? o ≠ some (.settings names) := fun h => nomatch isData_of_data? h
  rw [arguments_at, settings?_eq_some, Argument.settings.injEq]
  simp only [reduceCtorEq, hdata, and_false, false_or]
  constructor
  · rintro ⟨rfl, hquery, rfl⟩
    exact ⟨by rw [isSome_data?_of_query hquery], rfl, hquery⟩
  · rintro ⟨rfl, rfl, hquery⟩
    exact ⟨by rw [isSome_data?_of_query hquery], hquery, rfl⟩

theorem data?_eq_some :
    (∀ name, data? o = some (.value name) ↔
      sendsData o.method = true ∧ (sentNames o .body).head? = some name) ∧
    (data? o = some .form ↔
      sendsData o.method = true ∧ sentNames o .body = [] ∧ sentNames o .formData ≠ []) ∧
    (data? o = some .undefined ↔
      sendsData o.method = true ∧ sentNames o .body = [] ∧ sentNames o .formData = [] ∧
        sentNames o .query ≠ []) := by
  unfold data?
  cases sendsData o.method with
  | false => simp
  | true =>
    cases sentNames o .body with
    | cons n ns => simp
    | nil =>
      by_cases hform : sentNames o .formData = []
      · by_cases hquery : sentNames o .query = [] <;> simp [hform, hquery]
      · simp [hform]

/-- The arguments of the call of an operation, and the only place of each. -/
structure Passes (o : Operation) (args : List Argument) : Prop where
  address : ∀ i path, args[i]? = some (.address path) ↔ i = 0 ∧ path = o.path
  value : ∀ i name, args[i]? = some (.value name) ↔
    i = 1 ∧ sendsData o.method = true ∧ (sentNames o .body).head? = some name
  form : ∀ i, args[i]? = some .form ↔
    i = 1 ∧ sendsData o.method = true ∧ sentNames o .body = [] ∧ sentNames o .formData ≠ []
  undefined : ∀ i, args[i]? = some .undefined ↔
    i = 1 ∧ sendsData o.method = true ∧ sentNames o .body = [] ∧ sentNames o .formData = [] ∧
      sentNames o .query ≠ []
  settings : ∀ i names, args[i]? = some (.settings names) ↔
    i = (if sendsData o.method then 2 else 1) ∧ names = sentNames o .query ∧ names ≠ []

theorem passes_arguments (o : Operation) : Passes o (arguments o) where
  address _ _ := arguments_at_address
  value _ _ := (arguments_at_data rfl).trans (and_congr_right fun _ => data?_eq_some.1 _)
  form _ := (arguments_at_data rfl).trans (and_congr_right fun _ => data?_eq_some.2.1)
  undefined _ := (arguments_at_data rfl).trans (and_congr_right fun _ => data?_eq_some.2.2)
  settings _ _ := arguments_at_settings

/-! ## The form -/

/-- Whether a statement uses the form, which has to be open then. -/
def Statement.usesForm : Statement → Bool
  | openForm => false
  | fill _ => true
  | call _ _ args => args.contains .form

def Statement.filledName? : Statement → Option String
  | fill name => some name
  | _ => none

def Statement.isCall : Statement → Bool
  | call .. => true
  | _ => false

theorem form_of_uses {s : Statement} (hs : s ∈ statements o) (huses : s.usesForm = true) :
    sentNames o .formData ≠ [] := by
  rcases List.mem_append.mp hs with hs | hs
  · intro hform
    rw [hform] at hs
    cases hs
  · obtain rfl := List.mem_singleton.mp hs
    obtain ⟨i, hi⟩ := List.mem_iff_getElem?.mp (List.contains_iff_mem.mp huses)
    exact (((passes_arguments o).form i).mp hi).2.2.2

theorem statements_of_form (h : sentNames o .formData ≠ []) :
    statements o = .openForm :: ((sentNames o .formData).map .fill ++
      [.call o.method o.returnType (arguments o)]) := by
  rw [statements, formStatements, if_neg h, List.cons_append]

theorem opened_before {s : Statement} (hs : (statements o)[i]? = some s)
    (huses : s.usesForm = true) : ∃ j < i, (statements o)[j]? = some .openForm := by
  have hform := form_of_uses (List.mem_of_getElem? hs) huses
  rw [statements_of_form hform] at hs ⊢
  refine ⟨0, Nat.pos_of_ne_zero ?_, rfl⟩
  rintro rfl
  obtain rfl := Option.some.inj hs
  cases huses

theorem statements_of_none (h : sentNames o .formData = []) :
    statements o = [.call o.method o.returnType (arguments o)] := by
  rw [statements, formStatements, if_pos h, List.nil_append]

theorem filled_statements (o : Operation) :
    (statements o).filterMap Statement.filledName? = sentNames o .formData := by
  by_cases hform : sentNames o .formData = []
  · rw [statements_of_none hform, hform]
    rfl
  · rw [statements_of_form hform, List.filterMap_cons_none rfl, List.filterMap_append,
      List.filterMap_map]
    exact (List.append_nil _).trans List.filterMap_some

theorem count_openForm (o : Operation) :
    (statements o).count .openForm = if sentNames o .formData = [] then 0 else 1 := by
  by_cases hform : sentNames o .formData = []
  · rw [statements_of_none hform, if_pos hform]
    rfl
  · have hothers : Statement.openForm ∉ (sentNames o .formData).map .fill ++
        [.call o.method o.returnType (arguments o)] := by simp
    rw [statements_of_form hform, if_neg hform, List.count_cons_self,
      List.count_eq_zero.mpr hothers]

theorem filled_eq_some {description : Option String} {s : String} :
    filled description = some s ↔ description = some s ∧ s ≠ "" := by
  simp [filled, Option.filter_eq_some_iff]

structure Intended (o : Operation) (p : Procedure) : Prop where
  name : p.name = o.name
  method : p.method = o.method
  path : p.path = o.path
  description : ∀ s, p.description = some s ↔ o.description = some s ∧ s ≠ ""
  parameters : p.parameters = o.parameters.map fun q => (q.name, q.type)
  opened : p.statements.count .openForm = if sentNames o .formData = [] then 0 else 1
  filled : p.statements.filterMap Statement.filledName? = sentNames o .formData
  before : ∀ (i : Nat) (s : Statement), p.statements[i]? = some s → s.usesForm = true →
    ∃ j < i, p.statements[j]? = some .openForm
  call : ∃ opening args, p.statements = opening ++ [.call o.method o.returnType args] ∧
    (∀ s ∈ opening, s.isCall = false) ∧ Passes o args

theorem intended_procedure (o : Operation) : Intended o (procedure o) where
  name := rfl
  method := rfl
  path := rfl
  description _ := filled_eq_some
  parameters := rfl
  opened := count_openForm o
  filled := filled_statements o
  before _ _ := opened_before
  call := by
    refine ⟨formStatements (sentNames o .formData), arguments o, rfl, ?_, passes_arguments o⟩
    intro s hs
    unfold formStatements at hs
    split at hs
    · cases hs
    · rcases List.mem_cons.mp hs with rfl | hs
      · rfl
      · obtain ⟨name, -, rfl⟩ := List.mem_map.mp hs
        rfl

/-- A listing is that of a module: what it imports and describes, and a procedure for each of its
operations in order. -/
structure Listing.Of (m : ApiModule) (l : Listing) : Prop where
  imports : l.imports = if m.imports = [] then [.axios] else [.axios, .types m.imports]
  description : ∀ s, l.description = some s ↔ m.description = some s ∧ s ≠ ""
  procedures : List.Forall₂ Intended m.operations l.procedures

/-- The packaged templates write the listing of a module. The settings are the third argument of a
call that may send data, also if there are none to send, and the second of any other. -/
theorem packaged_listing (chance : Template.Chance) (m : ApiModule) :
    (readTemplates Packaged.slots >>= fun templates => moduleText chance templates m) =
        .ok (listing m).text ∧
      (listing m).Of m := by
  refine ⟨?_, rfl, fun _ => filled_eq_some, ?_⟩
  · rw [text_listing]
    exact moduleText_eq chance m
  · exact List.forall₂_map_right_iff.mpr (List.forall₂_same.mpr fun o _ => intended_procedure o)

/-- A query goes third also if nothing is sent. -/
example : statements ⟨"touch", .post, "/touch", none, "", [⟨"force", .query, "boolean", false⟩]⟩ =
    [.call .post "" [.address "/touch", .undefined, .settings ["force"]]] := rfl

end ClientCompiler.Render
