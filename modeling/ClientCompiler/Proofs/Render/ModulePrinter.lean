import ClientCompiler.Proofs.Render.Printer

/-!
The packaged templates for a module write what is printed for it.
-/

namespace ClientCompiler.Render

open Template

namespace Packaged

variable {s s' u : Frames} {e : Expr} {n : String} {chance : Chance}

theorem render_header {given : Names} {imports : List String}
    (h : given.lookup "imports" = some (listOf Datum.ofString imports)) :
    render chance headerProgram given = .ok (headerText imports) := by
  have himports : Means (outset chance given headerProgram) (.name "imports")
      (listOf Datum.ofString imports) := means_given rfl h
  generalize hs : outset chance given headerProgram = s at himports
  have hlist := writes_when himports fun _ => (writes_line s "import type \x7b ").cons
    ((writes_output (means_listed himports)).cons (writes_line s " \x7d from \"../types\";\n"))
  have hall := (writes_line s "import axios from \"axios\";\n").cons hlist
  have hrender : render chance headerProgram given = .ok _ := render_eq_ok (hs ▸ hall)
  rw [hrender]
  cases imports <;> rfl

theorem render_footer (given : Names) : render chance footerProgram given = .ok [] := rfl

section Operations

variable {o : Operation}

/-- What the names mean while an operation is written, after the first assignments. -/
structure InOperation (s : Frames) (o : Operation) : Prop where
  op : s.find? "op" = some (operationDatum o)
  body : s.find? "body" = some (listOf Datum.ofString (sentNames o .body))
  form : s.find? "form_data" = some (listOf Datum.ofString (sentNames o .formData))
  query : s.find? "query" = some (listOf Datum.ofString (sentNames o .query))
  sends : s.find? "sends_data" = some (.bool (o.method ∈ [.put, .post, .patch]))

theorem filterAuxM_eq_ok {f : Datum → Rendering Bool} {keeps : Parameter → Bool}
    {ps : List Parameter} (h : ∀ p, f (parameterDatum p) = .ok (keeps p)) (kept : List Datum) :
    (ps.map parameterDatum).filterAuxM f kept =
      .ok (((ps.filter keeps).map parameterDatum).reverse ++ kept) := by
  induction ps generalizing kept with
  | nil => rfl
  | cons p ps ih =>
    rw [List.map_cons, List.filterAuxM, h p]
    simp only [bind, Except.bind]
    rw [ih]
    cases hp : keeps p <;> simp [hp]

theorem siftedBy_parameters (ps : List Parameter) (l : Location) :
    (listOf parameterDatum ps).siftedBy true
        [.text "location".toList, .text "equalto".toList, .text l.name.toList] [] =
      .ok ((ps.filter fun p => p.location = l).map parameterDatum) := by
  have hkeeps (p : Parameter) : ((parameterDatum p).follow [.text "location".toList] >>= fun a =>
      a.sifts [.text "equalto".toList, .text l.name.toList] [] >>= fun b =>
        pure (b == true) : Rendering Bool) = .ok (p.location = l) := by
    have hfollow : (parameterDatum p).follow [.text "location".toList] =
        .ok (locationDatum p.location) := rfl
    rw [hfollow]
    cases p.location <;> cases l <;> rfl
  have hsteps : (Datum.text "location".toList).pathSteps = .ok [.text "location".toList] := rfl
  cases ps with
  | nil => rfl
  | cons p ps =>
    simp only [Datum.siftedBy, Datum.sifted]
    rw [if_neg (by simp [listOf, Datum.truthy]), hsteps]
    simp only [bind, Except.bind, listOf, Datum.items] at hkeeps ⊢
    rw [List.filterM, filterAuxM_eq_ok hkeeps]
    simp [bind, Except.bind, pure, Except.pure]

theorem mapped_names (ps : List Parameter) :
    (Datum.streamOf "generator object select_or_reject" (.ok (ps.map parameterDatum))).mapped chance
      [] [("attribute", .text "name".toList)] = .ok (ps.map fun p => .ofString p.name) := by
  have hnames : (ps.map parameterDatum).mapM (fun d => d.followOr none [.text "name".toList]) =
      .ok (ps.map fun p => .ofString p.name) := by
    have hfollow : (fun d : Datum => d.followOr none [.text "name".toList]) ∘ parameterDatum =
        fun p => pure (Datum.ofString p.name) := rfl
    rw [List.mapM_map, hfollow, List.mapM_pure]
    rfl
  exact hnames

theorem means_namesSent (h : s.find? "op" = some (operationDatum o)) (l : Location) :
    Means s (namesSent l.name) (listOf Datum.ofString (sentNames o l)) := by
  have hparameters : Means s (field "op" "parameters") (listOf parameterDatum o.parameters) :=
    means_field h rfl
  let selected := Datum.streamOf "generator object select_or_reject"
    (.ok ((o.parameters.filter fun p => p.location = l).map parameterDatum))
  have hselected : (listOf parameterDatum o.parameters).filtered s.chance "selectattr"
      [.text "location".toList, .text "equalto".toList, .text l.name.toList] [] =
        .ok selected := by
    unfold selected
    rw [← siftedBy_parameters]
    rfl
  have hmapped : selected.filtered s.chance "map" [] [("attribute", .text "name".toList)] =
      .ok (Datum.streamOf "generator object sync_do_map"
        (.ok ((sentNames o l).map Datum.ofString))) := by
    rw [sentNames, List.map_map, Function.comp_def, ← mapped_names]
    rfl
  exact ((hparameters.filter rfl rfl hselected).filter rfl rfl hmapped).filter rfl rfl rfl

theorem means_method (h : s.find? "op" = some (operationDatum o)) :
    Means s (.access (field "op" "method") "value") (.ofString o.method.name) :=
  (means_field h (f := "method") (d := methodDatum o.method) rfl).access rfl

theorem means_sendsData (h : s.find? "op" = some (operationDatum o)) :
    Means s (.compare (.access (field "op" "method") "value")
      [(.within, .const (.tuple [.text "put".toList, .text "post".toList, .text "patch".toList]))])
      (.bool (o.method ∈ [.put, .post, .patch])) := by
  have hmethod := means_method h
  rw [Means] at hmethod ⊢
  rw [Expr.eval, hmethod]
  cases o.method <;> rfl

theorem writes_selection (hstack : s.stack ≠ [])
    (h : s.find? "op" = some (operationDatum o)) :
    ∃ s', Writes s selectionNodes [] s' ∧ InOperation s' o := by
  obtain ⟨s₁, hbody, hstack, hfind₁⟩ := writes_store "body" hstack (means_namesSent h .body)
  have h₁ : s₁.find? "op" = some (operationDatum o) := by rw [hfind₁, if_neg (by decide), h]
  obtain ⟨s₂, hform, hstack, hfind₂⟩ :=
    writes_store "form_data" hstack (means_namesSent h₁ .formData)
  have h₂ : s₂.find? "op" = some (operationDatum o) := by rw [hfind₂, if_neg (by decide), h₁]
  obtain ⟨s₃, hquery, hstack, hfind₃⟩ := writes_store "query" hstack (means_namesSent h₂ .query)
  have h₃ : s₃.find? "op" = some (operationDatum o) := by rw [hfind₃, if_neg (by decide), h₂]
  obtain ⟨s₄, hsends, -, hfind₄⟩ := writes_store "sends_data" hstack (means_sendsData h₃)
  refine ⟨s₄, hbody.cons (hform.cons (hquery.cons hsends)), ?_, ?_, ?_, ?_, ?_⟩
  · rw [hfind₄, if_neg (by decide), h₃]
  · simp [hfind₄, hfind₃, hfind₂, hfind₁]
  · simp [hfind₄, hfind₃, hfind₂]
  · simp [hfind₄, hfind₃]
  · simp [hfind₄]

theorem writes_operationComment (h : InOperation s o) :
    Writes s operationCommentNodes ("  /**".toList ++ commentLines o) s := by
  have hpath : Means s (field "op" "path") (.ofString o.path) := means_field h.op rfl
  have hdescription : Means s (field "op" "description") (.ofOption o.description) :=
    means_field h.op rfl
  have hupper := means_upper (means_method h.op)
  have hline : Writes s [when (field "op" "description")
      [line "   * @description ", .output (documented (field "op" "description")), line "\n"]]
      (descriptionLine o.description) s := by
    refine writes_ifFilled hdescription fun x hx => ?_
    rw [hx] at hdescription
    rw [List.append_assoc]
    exact (writes_line s "   * @description ").cons
      ((writes_output (means_documented hdescription)).cons (writes_line s "\n"))
  have hopening : "  /**\n   * ".toList = "  /**".toList ++ "\n   * ".toList := by decide
  refine ((writes_line s "  /**\n   * ").cons ((writes_output hupper).cons
    ((writes_line s " ").cons ((writes_output hpath).cons
      ((writes_line s "\n").cons hline))))).of_eq ?_
  unfold commentLines
  simp only [hopening, List.append_assoc, Datum.render_text, Datum.render_ofString]

theorem flatten_separated {α : Type} (sep : List Char) (f : α → List Char) (xs : List α) :
    (xs.mapIdx fun i x => f x ++ if i + 1 = xs.length then [] else sep).flatten =
      Value.joined sep (xs.map f) := by
  induction xs with
  | nil => rfl
  | cons x xs ih =>
    cases xs with
    | nil => simp [Value.joined]
    | cons y ys =>
      rw [List.mapIdx_cons, List.flatten_cons, List.map_cons, List.map_cons, Value.joined,
        ← List.map_cons, ← ih]
      simp

theorem writes_parameter {p : Parameter} {i : Nat} {ds : List Datum}
    (hp : s.find? "p" = some (parameterDatum p)) (hloop : s.find? "loop" = some (.turn i ds)) :
    Writes s parameterNodes (p.name.toList ++ (": ".toList ++ (p.type.toList ++
      if i + 1 = ds.length then [] else ", ".toList))) s := by
  have hname : Means s (field "p" "name") (.ofString p.name) := means_field hp rfl
  have htype : Means s (field "p" "type") (.ofString p.type) := means_field hp rfl
  have hlast : Means s (field "loop" "last") (.bool (i + 1 = ds.length)) :=
    (means_name hloop).access rfl
  have hcomma := writes_when hlast.negation fun _ => writes_line s ", "
  refine ((writes_output hname).cons ((writes_line s ": ").cons
    ((writes_output htype).cons hcomma))).of_eq ?_
  by_cases hi : i + 1 = ds.length
  · simp only [hi, Datum.render_ofString, Datum.truthy, decide_true, Bool.not_true, if_true,
      Bool.false_eq_true, if_false]
  · simp only [hi, Datum.render_ofString, Datum.truthy, decide_false, Bool.not_false, if_true,
      if_false]

theorem writes_parameters {ps : List Parameter}
    (h : Means s (field "op" "parameters") (listOf parameterDatum ps)) :
    Writes s [loopOver "p" (field "op" "parameters") parameterNodes []]
      (Value.joined ", ".toList (ps.map fun p => p.name.toList ++ ": ".toList ++ p.type.toList))
      s := by
  have hloop := writes_loop "p" parameterNodes []
    (fun i p => p.name.toList ++ (": ".toList ++ (p.type.toList ++
      if i + 1 = (ps.map parameterDatum).length then [] else ", ".toList))) h fun i p _ =>
    ⟨_, writes_parameter (find?_turn_self (by decide) _ _ _ _)
      ((find?_turn (by decide) _ _ _ _ _).trans (if_pos rfl))⟩
  refine hloop.of_eq ?_
  rw [← flatten_separated]
  simp only [List.length_map, List.append_assoc]

theorem writes_signature (h : InOperation s o) :
    Writes s signatureNodes ("   */\n".toList ++ signatureText o) s := by
  have hname : Means s (field "op" "name") (.ofString o.name) := means_field h.op rfl
  have hparameters : Means s (field "op" "parameters") (listOf parameterDatum o.parameters) :=
    means_field h.op rfl
  have hopening : "   */\n  ".toList = "   */\n".toList ++ "  ".toList := by decide
  refine ((writes_line s "   */\n  ").cons ((writes_output hname).cons ((writes_line s "(").cons
    ((writes_parameters hparameters).cons (writes_line s ") \x7b\n"))))).of_eq ?_
  simp only [signatureText, hopening, List.append_assoc, Datum.render_ofString]

theorem writes_form (h : InOperation s o) :
    Writes s [when (.name "form_data")
      [line "    const _formData = new FormData();\n",
        loopOver "name" (.name "form_data") formNodes []]]
      (formText (sentNames o .formData)) s := by
  have hform := means_name h.form
  have hloop := writes_each "name" formNodes []
    (fun n => "    _formData.append(\"".toList ++ (n.toList ++ ("\", ".toList ++ (n.toList ++
      " as any);\n".toList)))) hform fun i n =>
    have hname := means_name (find?_turn_self (by decide) _ _ _ _)
    ⟨_, (writes_line _ "    _formData.append(\"").cons ((writes_output hname).cons
      ((writes_line _ "\", ").cons ((writes_output hname).cons (writes_line _ " as any);\n"))))⟩
  refine (writes_listed hform fun _ =>
    (writes_line s "    const _formData = new FormData();\n").cons hloop).of_eq ?_
  simp only [formText, List.append_assoc]

theorem writes_sent (h : InOperation s o) : Writes s dataNodes (sentText o) s := by
  have hquery := writes_listed (means_name h.query) fun _ => writes_line s ", undefined"
  have hform := writes_either (means_name h.form) (fun _ => writes_line s ", _formData") hquery
  have hbody := means_name h.body
  unfold sentText
  cases hnames : sentNames o .body with
  | nil =>
    rw [hnames] at hbody
    exact writes_branch hbody hform
  | cons n ns =>
    rw [hnames] at hbody
    have hfirst : Means s (.item (.name "body") (.const (.int 0))) (.ofString n) :=
      hbody.item rfl rfl
    exact writes_branch hbody ((writes_line s ", ").cons (writes_output hfirst))

theorem writes_data (h : InOperation s o) :
    Writes s [when (.name "sends_data") dataNodes] (dataText o) s := by
  refine (writes_when (means_name h.sends) fun _ => writes_sent h).of_eq ?_
  simp only [dataText, Datum.truthy, decide_eq_true_eq]

theorem writes_query (h : InOperation s o) :
    Writes s [when (.name "query")
      [line ", \x7b params: \x7b ", .output (listed (.name "query")), line " \x7d \x7d"]]
      (queryText (sentNames o .query)) s := by
  have hquery := means_name h.query
  refine (writes_listed hquery fun _ => (writes_line s ", \x7b params: \x7b ").cons
    ((writes_output (means_listed hquery)).cons (writes_line s " \x7d \x7d"))).of_eq ?_
  unfold queryText
  rw [List.append_assoc, Datum.render_text]

theorem writes_result (h : InOperation s o) :
    Writes s [when (field "op" "return_type")
      [line "<", .output (field "op" "return_type"), line ">"]] (resultText o.returnType) s := by
  have htype : Means s (field "op" "return_type") (.ofString o.returnType) := means_field h.op rfl
  refine (writes_when htype fun _ => (writes_line s "<").cons
    ((writes_output htype).cons (writes_line s ">"))).of_eq ?_
  by_cases hempty : o.returnType = "" <;> simp [resultText, hempty]

theorem writes_call (h : InOperation s o) :
    Writes s callNodes (formText (sentNames o .formData) ++ callText o) s := by
  have hpath : Means s (field "op" "path") (.ofString o.path) := means_field h.op rfl
  refine ((writes_form h).cons ((writes_line s "    return axios.").cons
    ((writes_output (means_method h.op)).cons ((writes_result h).cons ((writes_line s "(\x60").cons
      ((writes_output hpath).cons ((writes_line s "\x60").cons ((writes_data h).cons
        ((writes_query h).cons (writes_line s ");\n  \x7d,\n")))))))))).of_eq ?_
  unfold callText
  simp only [List.append_assoc, Datum.render_ofString]

theorem writes_operation (hstack : s.stack ≠ []) (h : s.find? "op" = some (operationDatum o)) :
    ∃ s', Writes s operationNodes (textOf (operationSegments o)) s' := by
  obtain ⟨s', hselection, hs'⟩ := writes_selection hstack h
  refine ⟨s', (((hselection.append (writes_operationComment hs')).append
    (writes_signature hs')).append (writes_call hs')).of_eq ?_⟩
  -- The template writes the signs of the comment together with the text beside them.
  have hopening : "  /**".toList = "  ".toList ++ "/**".toList := by decide
  have hclosing : "   */\n".toList = "   ".toList ++ ("*/".toList ++ "\n".toList) := by decide
  unfold operationSegments operationComment textOf
  simp only [hopening, hclosing, List.nil_append, List.append_assoc, List.flatMap_cons,
    List.flatMap_nil, List.append_nil, Segment.text, Segment.ofString]

end Operations

theorem render_body {given : Names} {operations : List Operation}
    (h : given.lookup "operations" = some (listOf operationDatum operations)) :
    render chance bodyProgram given = .ok (textOf (bodySegments operations)) := by
  have hoperations : Means (outset chance given bodyProgram) (.name "operations")
      (listOf operationDatum operations) := means_given rfl h
  generalize hs : outset chance given bodyProgram = s at hoperations
  have hloop := writes_each "op" operationNodes ["body", "form_data", "query", "sends_data"]
    (fun o => textOf (operationSegments o)) hoperations
    fun i o => writes_operation (List.cons_ne_nil _ _) (find?_turn_self (by decide) _ _ _ _)
  have hall := (writes_line s "\x7b\n").cons (hloop.cons (writes_line s "\x7d\n"))
  have hrender : render chance bodyProgram given = .ok _ := render_eq_ok (hs ▸ hall)
  rw [hrender, ← textOf_flatMap]
  unfold bodySegments
  rw [List.cons_append, textOf_cons, textOf_append]
  rfl

theorem render_wrapper {given : Names} {header body footer : List Char}
    {description : Option String}
    (hheader : given.lookup "module_header" = some (.text header))
    (hbody : given.lookup "module_body" = some (.text body))
    (hfooter : given.lookup "module_footer" = some (.text footer))
    (hdescription : given.lookup "description" = some (.ofOption description)) :
    render chance wrapperProgram given = .ok (header ++ ("\n".toList ++
      (textOf (described "" "description" description) ++ ("export default ".toList ++ (body ++
        ("\n".toList ++ (footer ++ "\n".toList))))))) := by
  have hheader : Means (outset chance given wrapperProgram) (.name "module_header") (.text header) :=
    means_given rfl hheader
  have hbody : Means (outset chance given wrapperProgram) (.name "module_body") (.text body) :=
    means_given rfl hbody
  have hfooter : Means (outset chance given wrapperProgram) (.name "module_footer") (.text footer) :=
    means_given rfl hfooter
  have hdescription : Means (outset chance given wrapperProgram) (.name "description")
      (.ofOption description) :=
    means_given rfl hdescription
  generalize hs : outset chance given wrapperProgram = s at hheader hbody hfooter hdescription
  have hcomment := writes_described "" "description" "/**\n * @description " "\n */\n"
    hdescription (by decide) (by decide)
  have hall := (writes_output hheader).cons ((writes_line s "\n").cons (hcomment.cons
    ((writes_line s "export default ").cons ((writes_output hbody).cons ((writes_line s "\n").cons
      ((writes_output hfooter).cons (writes_line s "\n")))))))
  exact render_eq_ok (hs ▸ hall)

theorem readTemplates_eq_ok {texts : Slots String} {header body footer wrapper : Program}
    (hheader : parse texts.header.toList = .ok header)
    (hbody : parse texts.body.toList = .ok body)
    (hfooter : parse texts.footer.toList = .ok footer)
    (hwrapper : parse texts.wrapper.toList = .ok wrapper) :
    readTemplates texts = .ok ⟨header, body, footer, wrapper⟩ := by
  simp only [readTemplates, Slots.traverse, hheader, hbody, hfooter, hwrapper, bind, Except.bind,
    pure, Except.pure, Except.mapError]

theorem readTemplates_slots : readTemplates slots =
    .ok ⟨headerProgram, bodyProgram, footerProgram, wrapperProgram⟩ :=
  readTemplates_eq_ok parse_header parse_body parse_footer parse_wrapper

end Packaged

theorem slotText_eq_ok {chance : Chance} {templates : ModuleTemplates} {slot : Slot} {names : Names}
    {t : List Char} (h : render chance (templates.get slot) names = .ok t) :
    slotText chance templates slot names = .ok t := by
  rw [slotText, h]
  rfl

/-- A module is written by the packaged templates as it is printed, whatever the chance. -/
theorem moduleText_eq (chance : Chance) (m : ApiModule) :
    (readTemplates Packaged.slots >>= fun templates => moduleText chance templates m) =
      .ok (textOf (moduleSegments m)) := by
  let templates : ModuleTemplates := ⟨Packaged.headerProgram, Packaged.bodyProgram,
    Packaged.footerProgram, Packaged.wrapperProgram⟩
  let made : Names := [("module_header", .text (headerText m.imports)),
    ("module_body", .text (textOf (bodySegments m.operations))), ("module_footer", .text [])]
  have hheader : slotText chance templates .header (moduleNames m) = .ok (headerText m.imports) :=
    slotText_eq_ok (Packaged.render_header rfl)
  have hbody : slotText chance templates .body (moduleNames m) =
      .ok (textOf (bodySegments m.operations)) := slotText_eq_ok (Packaged.render_body rfl)
  have hfooter : slotText chance templates .footer (moduleNames m) = .ok [] :=
    slotText_eq_ok (Packaged.render_footer _)
  have hwrapper : slotText chance templates .wrapper (moduleNames m ++ made) = .ok _ :=
    slotText_eq_ok (Packaged.render_wrapper rfl rfl rfl rfl)
  refine bind_eq_ok.mpr ⟨templates, Packaged.readTemplates_slots, bind_eq_ok.mpr ⟨_, hheader,
    bind_eq_ok.mpr ⟨_, hbody, bind_eq_ok.mpr ⟨_, hfooter, hwrapper.trans (congrArg _ ?_)⟩⟩⟩⟩
  unfold moduleSegments
  rw [textOf_append, textOf_append, textOf_append, textOf_cons]
  simp only [textOf, List.flatMap_cons, List.flatMap_nil, List.append_nil, List.append_assoc,
    List.nil_append, Segment.text, Segment.ofString]

end ClientCompiler.Render
