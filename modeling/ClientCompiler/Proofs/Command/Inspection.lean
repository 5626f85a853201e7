import ClientCompiler.Command.Run
import ClientCompiler.Proofs.Console.Tables
import ClientCompiler.Proofs.Document.Properties
import ClientCompiler.Proofs.Types.Names

/-!
What an inspection shows. A row for each model tells its name, its generics and its first
properties, and a row for each operation of every module tells where it is and what it returns. The
plain output and the JSON of an inspection are read back as the same rows.
-/

namespace ClientCompiler

namespace Inspection

/-! ## Rows -/

/-- The generics of a model in order, and a hyphen for none. -/
inductive ShowsGenerics : List String → String → Prop where
  | none : ShowsGenerics [] "-"
  | some {generics : List String} (h : generics ≠ []) :
      ShowsGenerics generics (", ".intercalate generics)

/-- A property with its type; a star follows the name exactly if it is required. -/
inductive ShowsProperty (p : Property) : String → Prop where
  | required (h : p.required = true) : ShowsProperty p (p.name ++ "*" ++ ": " ++ p.type)
  | optional (h : p.required = false) : ShowsProperty p (p.name ++ ": " ++ p.type)

/-- The properties of a model in order. Of more than five only the first five are shown, and dots
after them. -/
inductive ShowsProperties (ps : List Property) : String → Prop where
  | all {shown : List String} (h : ps.length ≤ 5) (hshown : List.Forall₂ ShowsProperty ps shown) :
      ShowsProperties ps (", ".intercalate shown)
  | firstFive {first more : List Property} {shown : List String} (hps : ps = first ++ more)
      (hfirst : first.length = 5) (hmore : more ≠ [])
      (hshown : List.Forall₂ ShowsProperty first shown) :
      ShowsProperties ps (", ".intercalate shown ++ "...")

def ShowsModel (m : Model) (row : List String) : Prop :=
  ∃ generics properties, row = [m.name, generics, properties] ∧
    ShowsGenerics m.generics generics ∧ ShowsProperties m.properties properties

/-- A hyphen in place of an empty return type, and any other type as it is spelled. A type that is
itself a hyphen cannot be told from an empty one. -/
inductive ShowsReturn : String → String → Prop where
  | nothing : ShowsReturn "" "-"
  | hyphen : ShowsReturn "-" "-"
  | type {returnType : String} (h : returnType ≠ "") (hhyphen : returnType ≠ "-") :
      ShowsReturn returnType returnType

def ShowsOperation (at_ : ApiModule × Operation) (row : List String) : Prop :=
  ∃ returns, row = [at_.1.name, at_.2.name, at_.2.method.title, at_.2.path, returns] ∧
    ShowsReturn at_.2.returnType returns

def modelHeaders : List String := ["Model", "Generics", "Properties"]

def operationHeaders : List String := ["Module", "Operation", "Method", "Path", "Returns"]

def operationsOf (modules : List ApiModule) : List (ApiModule × Operation) :=
  modules.flatMap fun m => m.operations.map (m, ·)

/-- A model whose names and types stay in one cell. -/
structure ModelFits (m : Model) : Prop where
  name : FitsCell m.name
  generics : ∀ g ∈ m.generics, FitsCell g
  properties : ∀ p ∈ m.properties, FitsCell p.name ∧ FitsCell p.type

/-- A module whose names, paths and return types stay in one cell. -/
structure ModuleFits (m : ApiModule) : Prop where
  name : FitsCell m.name
  operations : ∀ o ∈ m.operations, FitsCell o.name ∧ FitsCell o.path ∧ FitsCell o.returnType

instance (m : Model) : Decidable (ModelFits m) :=
  decidable_of_iff (FitsCell m.name ∧ (∀ g ∈ m.generics, FitsCell g) ∧
      ∀ p ∈ m.properties, FitsCell p.name ∧ FitsCell p.type)
    ⟨fun ⟨hname, hgenerics, hproperties⟩ => ⟨hname, hgenerics, hproperties⟩,
      fun h => ⟨h.name, h.generics, h.properties⟩⟩

instance (m : ApiModule) : Decidable (ModuleFits m) :=
  decidable_of_iff (FitsCell m.name ∧
      ∀ o ∈ m.operations, FitsCell o.name ∧ FitsCell o.path ∧ FitsCell o.returnType)
    ⟨fun ⟨hname, hoperations⟩ => ⟨hname, hoperations⟩, fun h => ⟨h.name, h.operations⟩⟩

variable {m : Model} {p : Property} {ps : List Property} {o : Operation} {generics : List String}

theorem intercalate_ne_empty (hne : generics ≠ []) (h : ∀ g ∈ generics, g ≠ "") :
    ", ".intercalate generics ≠ "" := by
  obtain ⟨g, gs, rfl⟩ := List.exists_cons_of_ne_nil hne
  have hfilled : g.toList ≠ [] := by simpa using h g List.mem_cons_self
  obtain ⟨c, cs, hc⟩ := List.exists_cons_of_ne_nil hfilled
  have hmem : c ∈ (", ".intercalate (g :: gs)).toList := by
    rw [String.toList_intercalate]
    exact Text.mem_intercalate (p := g.toList) (by simp) (by simp [hc])
  intro hempty
  rw [hempty] at hmem
  cases hmem

theorem shows_generics (h : ∀ g ∈ generics, g ≠ "") :
    ShowsGenerics generics (orHyphen (", ".intercalate generics)) := by
  by_cases hne : generics = []
  · subst hne
    exact .none
  · have hfilled : (", ".intercalate generics).isEmpty = false := by
      simpa using intercalate_ne_empty hne h
    rw [orHyphen, hfilled]
    exact .some hne

theorem shows_property (p : Property) : ShowsProperty p (propertyText p) := by
  unfold propertyText
  cases hrequired : p.required with
  | true => exact .required hrequired
  | false =>
    rw [if_neg (by decide), String.append_empty]
    exact .optional hrequired

theorem shows_each (ps : List Property) :
    List.Forall₂ ShowsProperty ps (ps.map propertyText) := by
  rw [List.forall₂_map_right_iff]
  exact List.forall₂_same.mpr fun p _ => shows_property p

theorem shows_properties (ps : List Property) : ShowsProperties ps (propertiesText ps) := by
  unfold propertiesText maxProperties
  by_cases h : ps.length ≤ 5
  · rw [if_neg (Nat.not_lt.mpr h), String.append_empty,
      List.take_of_length_le (by simpa using h)]
    exact .all h (shows_each ps)
  · have hmore : ps.drop 5 ≠ [] := by
      rw [Ne, List.drop_eq_nil_iff]
      exact h
    rw [if_pos (Nat.lt_of_not_le h), ← List.map_take]
    exact .firstFive (List.take_append_drop 5 ps).symm (by rw [List.length_take]; omega) hmore
      (shows_each _)

theorem shows_model (h : ∀ g ∈ m.generics, g ≠ "") : ShowsModel m (modelRow m) :=
  ⟨_, _, rfl, shows_generics h, shows_properties m.properties⟩

theorem shows_return (returnType : String) : ShowsReturn returnType (orHyphen returnType) := by
  by_cases h : returnType = ""
  · subst h
    exact .nothing
  · have hfilled : returnType.isEmpty = false := by simpa using h
    rw [orHyphen, hfilled]
    by_cases hhyphen : returnType = "-"
    · subst hhyphen
      exact .hyphen
    · exact .type h hhyphen

theorem shows_operation (m : ApiModule) (o : Operation) :
    ShowsOperation (m, o) (operationRow m o) :=
  ⟨_, rfl, shows_return o.returnType⟩

theorem rows_moduleTable (modules : List ApiModule) :
    (moduleTable modules).rows = (operationsOf modules).map fun at_ => operationRow at_.1 at_.2 := by
  unfold moduleTable operationsOf
  rw [List.map_flatMap]
  simp only [List.map_map]
  rfl

/-! ## Cells -/

theorem fitsCell_append {s r : String} (hs : FitsCell s) (hr : FitsCell r) : FitsCell (s ++ r) := by
  unfold FitsCell at hs hr ⊢
  rw [String.toList_append, List.mem_append, List.mem_append, not_or, not_or]
  exact ⟨⟨hs.1, hr.1⟩, hs.2, hr.2⟩

theorem fitsCell_intercalate {texts : List String} (h : ∀ s ∈ texts, FitsCell s) :
    FitsCell (", ".intercalate texts) := by
  have hnone {c : Char} (hsep : c ∉ ", ".toList) (hc : ∀ s ∈ texts, c ∉ s.toList) :
      c ∉ (", ".intercalate texts).toList := by
    rw [String.toList_intercalate]
    intro hmem
    rcases Text.of_mem_intercalate hmem with hmem | ⟨piece, hpiece, hmem⟩
    · exact hsep hmem
    · obtain ⟨s, hs, rfl⟩ := List.mem_map.mp hpiece
      exact hc s hs hmem
  exact ⟨hnone (by decide) fun s hs => (h s hs).1, hnone (by decide) fun s hs => (h s hs).2⟩

theorem fitsCell_orHyphen {s : String} (h : FitsCell s) : FitsCell (orHyphen s) := by
  unfold orHyphen
  split
  · decide
  · exact h

theorem fitsCell_propertyText (hname : FitsCell p.name) (htype : FitsCell p.type) :
    FitsCell (propertyText p) := by
  have hstar : FitsCell (if p.required then "*" else "") := by
    split <;> decide
  exact fitsCell_append (fitsCell_append (fitsCell_append hname hstar) (by decide)) htype

theorem fitsCell_propertiesText (h : ∀ p ∈ ps, FitsCell p.name ∧ FitsCell p.type) :
    FitsCell (propertiesText ps) := by
  refine fitsCell_append (fitsCell_intercalate fun s hs => ?_) (by split <;> decide)
  obtain ⟨p, hp, rfl⟩ := List.mem_map.mp (List.mem_of_mem_take hs)
  exact fitsCell_propertyText (h p hp).1 (h p hp).2

theorem ModelFits.row (h : ModelFits m) : ∀ cell ∈ modelRow m, FitsCell cell := by
  have hgenerics := fitsCell_orHyphen (fitsCell_intercalate h.generics)
  have hproperties := fitsCell_propertiesText h.properties
  simp only [modelRow, List.forall_mem_cons, h.name, hgenerics, hproperties, true_and]
  nofun

theorem ModuleFits.row {m : ApiModule} (h : ModuleFits m) (ho : o ∈ m.operations) :
    ∀ cell ∈ operationRow m o, FitsCell cell := by
  obtain ⟨hname, hpath, hreturn⟩ := h.operations o ho
  have hmethod : FitsCell o.method.title := by cases o.method <;> decide
  simp only [operationRow, List.forall_mem_cons, h.name, hname, hmethod, hpath,
    fitsCell_orHyphen hreturn, true_and]
  nofun

theorem readable_modelTable {models : List Model} (h : ∀ m ∈ models, ModelFits m) :
    (modelTable models).Readable where
  headed := List.cons_ne_nil _ _
  distinct := by
    have hdistinct : modelHeaders.Nodup := by decide
    exact hdistinct
  aligned := List.forall_mem_map.mpr fun _ _ => rfl
  fits := by
    have hheaders : ∀ cell ∈ modelHeaders, FitsCell cell := by decide
    exact List.forall_mem_cons.mpr ⟨hheaders, List.forall_mem_map.mpr fun m hm => (h m hm).row⟩

theorem readable_moduleTable {modules : List ApiModule} (h : ∀ m ∈ modules, ModuleFits m) :
    (moduleTable modules).Readable where
  headed := List.cons_ne_nil _ _
  distinct := by
    have hdistinct : operationHeaders.Nodup := by decide
    exact hdistinct
  aligned := by
    rw [rows_moduleTable]
    exact List.forall_mem_map.mpr fun _ _ => rfl
  fits := by
    have hheaders : ∀ cell ∈ operationHeaders, FitsCell cell := by decide
    refine List.forall_mem_cons.mpr ⟨hheaders, ?_⟩
    rw [rows_moduleTable]
    refine List.forall_mem_map.mpr fun at_ hat => ?_
    obtain ⟨m, hm, hat⟩ := List.mem_flatMap.mp hat
    obtain ⟨o, ho, rfl⟩ := List.mem_map.mp hat
    exact (h m hm).row ho

end Inspection

/-! ## Compiled models -/

theorem generics_of_ofValue {table : TypeTable} {key : Value} {node : TypeNode}
    (h : TypeNode.ofValue table key = .ok node) : ∀ g ∈ node.generics, g.name ≠ "" := by
  unfold TypeNode.ofValue at h
  split at h
  · obtain rfl := Except.ok.inj h
    exact TypeNode.generic_name_ne_empty table _
  · split at h
    · obtain rfl := Except.ok.inj h
      nofun
    · cases h
  · split at h
    · cases h
    · obtain rfl := Except.ok.inj h
      nofun

theorem generics_of_modelPlan {table : TypeTable} {d : TwoPass.Definition} {m : TwoPass.ModelPlan}
    (h : TwoPass.modelPlan table d = .ok m) : m.generics = d.node.generics.map (·.name) := by
  simp only [TwoPass.modelPlan, bind_eq_ok, pure_eq_ok] at h
  obtain ⟨_, _, _, _, _, _, _, _, rfl⟩ := h
  rfl

theorem generics_of_modelsOf {table : TypeTable} {v : Value} {models : List Model}
    (h : (modelsOf table v).result = .ok models) : ∀ m ∈ models, ∀ g ∈ m.generics, g ≠ "" := by
  obtain ⟨log, h⟩ := Traced.result_eq_ok.mp h
  cases v with
  | map kvs =>
    obtain ⟨ds, ms, hds, hms, rfl, -⟩ := TwoPass.modelsOf_eq_returned.mp h
    intro model hmodel g hg
    obtain ⟨plan, hplan, rfl⟩ := List.mem_map.mp hmodel
    obtain ⟨d, hd, hmodelPlan⟩ := exists_of_forall₂_of_mem (mapM_eq_ok.mp hms) hplan
    have hd : d ∈ ds := List.mem_of_find?_eq_some (TwoPass.mem_firsts.mp hd)
    rw [TwoPass.definitions_eq_mapM] at hds
    obtain ⟨entry, -, hdefinition⟩ := exists_of_forall₂_of_mem (mapM_eq_ok.mp hds) hd
    obtain ⟨node, hnode, hdefinition⟩ := bind_eq_ok.mp hdefinition
    obtain rfl := pure_eq_ok.mp hdefinition
    have hgenerics : g ∈ node.generics.map (·.name) := generics_of_modelPlan hmodelPlan ▸ hg
    obtain ⟨child, hchild, rfl⟩ := List.mem_map.mp hgenerics
    exact generics_of_ofValue hnode child hchild
  | _ => cases h

namespace Command

open Inspection

variable {w : World} {c : Settings.Choice} {s : Settings} {path : Option FilePath} {client : Client}
  {p : Printer} {o : PrinterOptions}

theorem models_of_compileAt (h : (compileAt w (placeOf s)).result = .ok client) :
    ∀ m ∈ client.models, ∀ g ∈ m.generics, g ≠ "" := by
  unfold compileAt compile at h
  simp only [Traced.bind_eq, Traced.pure_eq, Traced.result_bind_eq_ok] at h
  obtain ⟨document, -, _, -, fields, -, models, hmodels, modules, -, source, -, hclient⟩ := h
  obtain rfl := Except.ok.inj hclient
  exact generics_of_modelsOf hmodels

theorem out_runInspect {table? : Client → Option Table} {t : Table} {out : List Char}
    (nothing : String) (hs : Settings.resolve w.files.disk c = .ok (s, path))
    (hclient : (compileAt w (placeOf s)).result = .ok client) (htable : table? client = some t)
    (hout : p.table t = .ok out) : (runInspect w p c table? nothing).out = out := by
  unfold runInspect
  rw [hs]
  dsimp only
  rw [hclient]
  dsimp only
  rw [htable]
  dsimp only
  rw [hout]

theorem run_of_printer (hp : Printer.ofOptions w.surroundings o = .ok p) :
    (run w o (.inspectModels c)).out =
        (runInspect w p c modelTable? "No definitions in this document.").out ∧
      (run w o (.inspectModules c)).out =
        (runInspect w p c moduleTable? "No tagged operations in this document.").out := by
  unfold run
  rw [hp]
  exact ⟨rfl, rfl⟩

/-- Plain and in JSON, the inspections of a compiled document denote the same rows: one for each
model, and one for each operation of every module. -/
theorem inspections_agree (w : World) (c : Settings.Choice) {s : Settings}
    {path : Option FilePath} {client : Client} (hs : Settings.resolve w.files.disk c = .ok (s, path))
    (hclient : (compileAt w (placeOf s)).result = .ok client) {plain json : PrinterOptions}
    {p q : Printer} (hp : Printer.ofOptions w.surroundings plain = .ok p)
    (hplain : p.format = .plain) (hq : Printer.ofOptions w.surroundings json = .ok q)
    (hjson : q.format = .json) :
    (client.models ≠ [] → (∀ m ∈ client.models, ModelFits m) →
      ∃ rows, Table.Denoted (run w plain (.inspectModels c)).out
          (run w json (.inspectModels c)).out modelHeaders rows ∧
        List.Forall₂ ShowsModel client.models rows) ∧
    (client.modules ≠ [] → (∀ m ∈ client.modules, ModuleFits m) →
      ∃ rows, Table.Denoted (run w plain (.inspectModules c)).out
          (run w json (.inspectModules c)).out operationHeaders rows ∧
        List.Forall₂ ShowsOperation (operationsOf client.modules) rows) := by
  have hshown {table? : Client → Option Table} {t : Table} (nothing : String)
      (htable : table? client = some t) (ht : t.Readable) :
      Table.Denoted (runInspect w p c table? nothing).out (runInspect w q c table? nothing).out
        t.headers t.rows := by
    obtain ⟨a, b, ha, hb, hdenoted⟩ := ht.denoted hplain hjson
    rw [out_runInspect nothing hs hclient htable ha, out_runInspect nothing hs hclient htable hb]
    exact hdenoted
  refine ⟨fun hne hfits => ?_, fun hne hfits => ?_⟩
  · have htable : modelTable? client = some (modelTable client.models) := by
      rw [modelTable?, if_neg (by simpa using hne)]
    refine ⟨client.models.map modelRow, ?_, ?_⟩
    · rw [(run_of_printer hp).1, (run_of_printer hq).1]
      exact hshown _ htable (readable_modelTable hfits)
    · rw [List.forall₂_map_right_iff]
      exact List.forall₂_same.mpr fun m hm => shows_model (models_of_compileAt hclient m hm)
  · have htable : moduleTable? client = some (moduleTable client.modules) := by
      rw [moduleTable?, if_neg (by simpa using hne)]
    refine ⟨(moduleTable client.modules).rows, ?_, ?_⟩
    · rw [(run_of_printer hp).2, (run_of_printer hq).2]
      exact hshown _ htable (readable_moduleTable hfits)
    · rw [rows_moduleTable, List.forall₂_map_right_iff]
      exact List.forall₂_same.mpr fun at_ _ => shows_operation at_.1 at_.2

/-- A model with six properties, one with a generic, an operation that returns nothing and one that
returns a model. -/
theorem inspections_agree_pets :
    let document := "\x7b\"swagger\": \"2.0\", \"definitions\": \x7b\"Pet\": \x7b\"required\": " ++
      "[\"a\"], \"properties\": \x7b\"a\": \x7b\"type\": \"integer\"\x7d, \"b\": \x7b\x7d, \"c\": " ++
      "\x7b\x7d, \"d\": \x7b\x7d, \"e\": \x7b\x7d, \"f\": \x7b\x7d\x7d\x7d, \"Page<Pet>\": " ++
      "\x7b\x7d\x7d, \"paths\": \x7b\"/pets\": \x7b\"get\": \x7b\"tags\": [\"pets\"], " ++
      "\"responses\": \x7b\"200\": \x7b\"schema\": \x7b\"$ref\": \"#/definitions/Pet\"" ++
      "\x7d\x7d\x7d\x7d, \"post\": \x7b\"tags\": [\"pets\"]\x7d\x7d\x7d\x7d"
    let w : World := ⟨FileTree.empty ["work"], .none, .text document.toList, fun _ => .failed "",
      .constant 0, .absent, ⟨none, none, none, none, false⟩⟩
    let c : Settings.Choice := ⟨some "-", none, none⟩
    let plain : PrinterOptions := ⟨.auto, false, false, false⟩
    let json : PrinterOptions := ⟨.json, false, false, false⟩
    ∃ client, (compileAt w "-").result = .ok client ∧
      (client.models ≠ [] ∧ ∀ m ∈ client.models, ModelFits m) ∧
      (client.modules ≠ [] ∧ ∀ m ∈ client.modules, ModuleFits m) ∧
      (∃ rows, Table.Denoted (run w plain (.inspectModels c)).out
          (run w json (.inspectModels c)).out modelHeaders rows ∧
        List.Forall₂ ShowsModel client.models rows) ∧
      ∃ rows, Table.Denoted (run w plain (.inspectModules c)).out
          (run w json (.inspectModules c)).out operationHeaders rows ∧
        List.Forall₂ ShowsOperation (operationsOf client.modules) rows := by
  intro document w c plain json
  have hcompiled : ((compileAt w "-").result.toOption.map fun client =>
      (client.models, client.modules)) = some
        ([⟨"Pet", none, [], [⟨"a", "number", true, none⟩, ⟨"b", "any", false, none⟩,
          ⟨"c", "any", false, none⟩, ⟨"d", "any", false, none⟩, ⟨"e", "any", false, none⟩,
          ⟨"f", "any", false, none⟩]⟩, ⟨"Page", none, ["Pet"], []⟩],
        [⟨"pets", none, [⟨"getPets", .get, "/pets", none, "Pet", []⟩,
          ⟨"postPets", .post, "/pets", none, "", []⟩], ["Pet"]⟩]) := by
    decide +kernel
  obtain ⟨client, hclient, hparts⟩ := Option.map_eq_some_iff.mp hcompiled
  have hclient : (compileAt w "-").result = .ok client := toOption_eq_some.mp hclient
  obtain ⟨hmodels, hmodules⟩ := Prod.mk.inj hparts
  have hmodelsFit : client.models ≠ [] ∧ ∀ m ∈ client.models, ModelFits m := by
    rw [hmodels]
    decide +kernel
  have hmodulesFit : client.modules ≠ [] ∧ ∀ m ∈ client.modules, ModuleFits m := by
    rw [hmodules]
    decide +kernel
  have hresolve : Settings.resolve w.files.disk c =
      .ok (⟨some "-", ".specgen", Settings.noTemplates⟩, none) := by
    decide +kernel
  have hplain : Printer.ofOptions w.surroundings plain =
      .ok ⟨.plain, false, false, false, false, 80⟩ := rfl
  have hjson : Printer.ofOptions w.surroundings json =
      .ok ⟨.json, false, false, false, false, 80⟩ := rfl
  obtain ⟨hmodelRows, hmoduleRows⟩ := inspections_agree w c hresolve hclient hplain rfl hjson rfl
  exact ⟨client, hclient, hmodelsFit, hmodulesFit, hmodelRows hmodelsFit.1 hmodelsFit.2,
    hmoduleRows hmodulesFit.1 hmodulesFit.2⟩

/-- An operation that returns a type spelled as a hyphen: both formats show a hyphen, and the return
type is not empty. -/
theorem hyphen_shown_for_type :
    let document := "\x7b\"swagger\": \"2.0\", \"paths\": \x7b\"/pets\": \x7b\"get\": \x7b" ++
      "\"tags\": [\"pets\"], \"responses\": \x7b\"200\": \x7b\"schema\": \x7b\"type\": \"-\"" ++
      "\x7d\x7d\x7d\x7d\x7d\x7d\x7d"
    let w : World := ⟨FileTree.empty ["work"], .none, .text document.toList, fun _ => .failed "",
      .constant 0, .absent, ⟨none, none, none, none, false⟩⟩
    let c : Settings.Choice := ⟨some "-", none, none⟩
    ((compileAt w "-").result.toOption.map (·.modules)) =
        some [⟨"pets", none, [⟨"getPets", .get, "/pets", none, "-", []⟩], ["-"]⟩] ∧
      (run w ⟨.auto, false, false, false⟩ (.inspectModules c)).out =
        "Module\tOperation\tMethod\tPath\tReturns\npets\tgetPets\tGET\t/pets\t-\n".toList ∧
      (run w ⟨.json, false, false, false⟩ (.inspectModules c)).out =
        ("[\n  \x7b\n    \"Module\": \"pets\",\n    \"Operation\": \"getPets\",\n    " ++
          "\"Method\": \"GET\",\n    \"Path\": \"/pets\",\n    \"Returns\": \"-\"\n  \x7d\n]\n").toList := by
  decide +kernel

end Command

end ClientCompiler
