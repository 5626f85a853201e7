import ClientCompiler.Proofs.Document.DeclarationOrder
import ClientCompiler.Proofs.Document.Registries

/-!
Models and modules do not depend on each other. The registry goes through every function that types
an operation, but what comes out of it is only which references are reported. So the modules of a
document are the same whatever its definitions are, and more definitions take warnings away.
-/

namespace ClientCompiler

open Traced (Alike)

variable {r : List Diagnostic → List Diagnostic → Prop}

namespace Operations

variable {scope : Scope} {known : List String}

def Scope.under (scope : Scope) (known : List String) : Scope := { scope with registry := known }

theorem parameterList_alike (hr : Joins r) (hself : ∀ l, r l l) (v : Value) :
    Alike r (parameterList scope v) (parameterList (scope.under known) v) := by
  unfold parameterList
  exact (Alike.lift hr _).bind hr fun params _ => ⟨rfl, hself _⟩

theorem extract_alike (hr : Joins r) (hself : ∀ l, r l l)
    (hreports : ∀ context, Schema.ReportsAlike r scope.table scope.registry known context)
    (path : String) (pathParameters : Value) (method : Method) (operation : Value.Entries) :
    Alike r (extract scope path pathParameters method operation)
      (extract (scope.under known) path pathParameters method operation) := by
  have htype (context : String) :=
    returnType_alike hr scope (scope.under known) rfl (hreports context)
  unfold extract
  refine (htype _ operation).bind hr fun result _ => ?_
  refine (parameterList_alike hr hself pathParameters).bind hr fun inherited _ => ?_
  refine (parameterList_alike hr hself _).bind hr fun own _ => ?_
  refine (Alike.lift hr _).bind hr fun merged _ => ?_
  refine (Parameters.extractAll_alike hr (hreports _) merged).bind hr fun typed _ => ?_
  exact (Alike.lift hr _).bind hr fun _ _ => Alike.pure hr _

theorem ofItem_alike (hr : Joins r) (hself : ∀ l, r l l)
    (hreports : ∀ context, Schema.ReportsAlike r scope.table scope.registry known context)
    (path : String) (pathParameters : Value) (item : Value.Entries) :
    Alike r (ofItem scope path pathParameters item)
      (ofItem (scope.under known) path pathParameters item) := by
  induction item with
  | nil => exact Alike.pure hr _
  | cons kv item ih =>
    obtain ⟨key, value⟩ := kv
    rw [ofItem, ofItem]
    cases entryMethod? key value with
    | none => exact ih
    | some found =>
      refine (Alike.lift hr _).bind hr fun listed _ => ?_
      cases listed with
      | false => exact ih
      | true =>
        refine (extract_alike hr hself hreports _ _ _ _).bind hr fun found _ => ?_
        exact ih.bind hr fun rest _ => Alike.pure hr _

theorem ofPaths_alike (hr : Joins r) (hself : ∀ l, r l l)
    (hreports : ∀ context, Schema.ReportsAlike r scope.table scope.registry known context)
    (paths : Value.Entries) :
    Alike r (ofPaths scope paths) (ofPaths (scope.under known) paths) := by
  induction paths with
  | nil => exact Alike.pure hr _
  | cons kv paths ih =>
    obtain ⟨path, value⟩ := kv
    cases value with
    | map item =>
      cases path with
      | str p =>
        refine (ofItem_alike hr hself hreports p _ item).bind hr fun found _ => ?_
        exact ih.bind hr fun rest _ => Alike.pure hr _
      | _ => exact ⟨rfl, hr.nil⟩
    | _ => exact ih

end Operations

namespace Modules

variable {table : TypeTable} {known known' : List String}

theorem ofTag_alike (hr : Joins r) (hself : ∀ l, r l l)
    (hreports : ∀ context, Schema.ReportsAlike r table known known' context)
    (fields : Value.Entries) (tag : Value × Value) :
    Alike r (ofTag table known fields tag) (ofTag table known' fields tag) := by
  have hfound : Alike r (Operations.ofDocument table known (.map fields) tag.1)
      (Operations.ofDocument table known' (.map fields) tag.1) := by
    simp only [Operations.ofDocument, Shape.entries, Traced.bind_eq, Traced.lift_ok_bind]
    refine (Alike.lift hr _).bind hr fun paths _ => ?_
    let scope : Operations.Scope :=
      ⟨table, known, Shape.orEmptyMap (Value.fieldD "parameters" fields), tag.1⟩
    have hscope : ∀ context, Schema.ReportsAlike r scope.table scope.registry known' context :=
      hreports
    exact Operations.ofPaths_alike hr hself hscope paths
  refine hfound.bind hr fun found _ => ?_
  exact (Alike.lift hr _).bind hr fun _ _ => Alike.pure hr _

theorem ofDocument_alike (hr : Joins r) (hself : ∀ l, r l l)
    (hreports : ∀ context, Schema.ReportsAlike r table known known' context) (document : Value) :
    Alike r (ofDocument table known document) (ofDocument table known' document) := by
  refine (Alike.lift hr _).bind hr fun fields _ => ?_
  refine (Alike.lift hr _).bind hr fun found _ => ?_
  exact Alike.each hr fun tag _ => ofTag_alike hr hself hreports fields tag

/-- The fields from which modules are read are the same in two documents. -/
structure SameSource (d e : Value.Entries) : Prop where
  tags : Value.fieldD "tags" d = Value.fieldD "tags" e
  paths : Value.fieldD "paths" d = Value.fieldD "paths" e
  parameters : Value.fieldD "parameters" d = Value.fieldD "parameters" e

theorem SameSource.ofDocument {d e : Value.Entries} (h : SameSource d e) (known : List String) :
    ofDocument table known (.map d) = ofDocument table known (.map e) := by
  have htags : Modules.tags d = Modules.tags e := by
    unfold Modules.tags
    rw [h.tags, h.paths]
  have htag : ofTag table known d = ofTag table known e := by
    funext tag
    have hfound : Operations.ofDocument table known (.map d) tag.1 =
        Operations.ofDocument table known (.map e) tag.1 := by
      simp only [Operations.ofDocument, Shape.entries, Traced.bind_eq, Traced.lift_ok_bind, h.paths,
        h.parameters]
    unfold ofTag
    rw [hfound]
  simp only [Modules.ofDocument, Shape.entries, Traced.bind_eq, Traced.lift_ok_bind, htags, htag]

end Modules

section Compilation

variable {table : TypeTable} {d e : Value.Entries} {c c' : Client}

def definitionsOf (d : Value.Entries) : Value := Shape.orEmptyMap (Value.fieldD "definitions" d)

/-- What a compilation logs after the log of the models: the records of the modules. -/
def moduleLog (table : TypeTable) (d : Value.Entries) : List Diagnostic :=
  (compile table (.map d)).log.drop (modelsOf table (definitionsOf d)).log.length

theorem source_of_textKeys (h : d.all (·.1.isStr) = true) :
    (Checked.within (.name "raw_spec") (Validation.textKeyed (.map d))).orFault = .ok d := by
  rw [Validation.textKeyed, if_pos h]
  rfl

theorem compile_eq_returned {log : List Diagnostic} :
    compile table (.map d) = ⟨.ok c, log⟩ ↔
      ∃ l m, modelsOf table (definitionsOf d) = ⟨.ok c.models, l⟩ ∧
        Modules.ofDocument table (c.models.map (·.name)) (.map d) = ⟨.ok c.modules, m⟩ ∧
        (Checked.within (.name "raw_spec") (Validation.textKeyed (.map d))).orFault =
          .ok c.source ∧ log = l ++ m := by
  simp only [compile, Shape.entries, Traced.bind_eq, Traced.pure_eq, Traced.lift_ok_bind,
    Traced.bind_eq_returned]
  constructor
  · rintro ⟨models, l, _, hmodels, ⟨modules, m, _, hmodules, ⟨source, _, _, hsource, hlast, rfl⟩,
      rfl⟩, rfl⟩
    obtain ⟨hkeyed, rfl⟩ := Traced.lift_eq_returned.mp hsource
    obtain ⟨rfl, rfl⟩ := Traced.pure_eq_returned.mp hlast
    exact ⟨l, m, hmodels, hmodules, hkeyed, by simp⟩
  · rintro ⟨l, m, hmodels, hmodules, hsource, rfl⟩
    exact ⟨c.models, l, m, hmodels, ⟨c.modules, m, [], hmodules,
      ⟨c.source, [], [], Traced.lift_eq_returned.mpr ⟨hsource, rfl⟩, rfl, rfl⟩, by simp⟩, rfl⟩

theorem moduleLog_eq {l m : List Diagnostic} (h : compile table (.map d) = ⟨.ok c, l ++ m⟩)
    (hmodels : modelsOf table (definitionsOf d) = ⟨.ok c.models, l⟩) : moduleLog table d = m := by
  unfold moduleLog
  rw [h, hmodels, List.drop_left]

/-- Two documents with the same tags, paths and shared parameters have the same modules, and two
with the same definitions have the same models. Where the second of the former knows more models, it
warns of nothing but what the first warns of, in the same order. -/
theorem compile_independent (hd : (compile table (.map d)).result = .ok c)
    (he : (compile table (.map e)).result = .ok c') :
    (Modules.SameSource d e → c.modules = c'.modules) ∧
      (Value.fieldD "definitions" d = Value.fieldD "definitions" e → c.models = c'.models) ∧
      (Modules.SameSource d e → c.models.map (·.name) ⊆ c'.models.map (·.name) →
        ((moduleLog table e).filter (·.level = .warning)).Sublist
          ((moduleLog table d).filter (·.level = .warning))) := by
  obtain ⟨_, hd⟩ := Traced.result_eq_ok.mp hd
  obtain ⟨_, he⟩ := Traced.result_eq_ok.mp he
  obtain ⟨l, m, hmodels, hmodules, -, rfl⟩ := compile_eq_returned.mp hd
  obtain ⟨l', m', hmodels', hmodules', -, rfl⟩ := compile_eq_returned.mp he
  have halike := Modules.ofDocument_alike (joins_sublist _) (fun l _ => List.Sublist.refl l)
    (Schema.reportsAlike_sublist table (c.models.map (·.name)) (c'.models.map (·.name))) (.map d)
  rw [hmodules] at halike
  refine ⟨?_, ?_, ?_⟩
  · intro hsame
    rw [hsame.ofDocument, hmodules'] at halike
    exact Except.ok.inj halike.result
  · intro hsame
    have hdefinitions : definitionsOf d = definitionsOf e := by
      unfold definitionsOf
      rw [hsame]
    rw [hdefinitions, hmodels'] at hmodels
    exact (Except.ok.inj (congrArg Traced.result hmodels)).symm
  · intro hsame hknown
    rw [hsame.ofDocument, hmodules'] at halike
    rw [moduleLog_eq hd hmodels, moduleLog_eq he hmodels']
    exact (halike.log hknown).filter _

/-- A response with a pet and a body with a person: both are unknown without definitions, and only
the person is where pets are defined. The definitions alone give the same models. -/
theorem compile_independent_pets :
    let typed (name : String) : Value × Value :=
      (.str "schema", .map [(.str "$ref", .str ("#/definitions/" ++ name))])
    let body : Value := .map [(.str "name", .str "owner"), (.str "in", .str "body"), typed "Person"]
    let operation : Value := .map [(.str "tags", .list [.str "pet"]),
      (.str "operationId", .str "adopt"), (.str "parameters", .list [body]),
      (.str "responses", .map [(.str "200", .map [typed "Pet"])])]
    let paths : Value × Value :=
      (.str "paths", .map [(.str "/pets", .map [(.str "post", operation)])])
    let definitions : Value × Value := (.str "definitions", .map [(.str "Pet", .map [])])
    let modules : List ApiModule :=
      [⟨"pet", none, [⟨"adopt", .post, "/pets", none, "Pet", [⟨"owner", .body, "Person", false⟩]⟩],
        ["Pet", "Person"]⟩]
    let pets : List Model := [⟨"Pet", none, [], []⟩]
    let c : Client := ⟨[], modules, [paths]⟩
    let c' : Client := ⟨pets, modules, [definitions, paths]⟩
    let c'' : Client := ⟨pets, [], [definitions]⟩
    (compile .typeScript (.map [paths])).result = .ok c ∧
      (compile .typeScript (.map [definitions, paths])).result = .ok c' ∧
      (compile .typeScript (.map [definitions])).result = .ok c'' ∧
      c.modules = c'.modules ∧ c'.models = c''.models ∧
      ((moduleLog .typeScript [definitions, paths]).filter (·.level = .warning)).Sublist
        ((moduleLog .typeScript [paths]).filter (·.level = .warning)) := by
  intro typed body operation paths definitions modules pets c c' c''
  have hc : (compile .typeScript (.map [paths])).result = .ok c :=
    Traced.result_eq_ok.mpr ⟨_, compile_eq_returned.mpr ⟨[.modelsRegistered 0 0],
      [.unresolved "Pet" (some "POST /pets"), .unresolved "Person" (some "POST /pets")],
      by decide +kernel, by decide +kernel, source_of_textKeys rfl, rfl⟩⟩
  have hc' : (compile .typeScript (.map [definitions, paths])).result = .ok c' :=
    Traced.result_eq_ok.mpr ⟨_, compile_eq_returned.mpr ⟨[.modelsRegistered 1 0],
      [.unresolved "Person" (some "POST /pets")],
      by decide +kernel, by decide +kernel, source_of_textKeys rfl, rfl⟩⟩
  have hc'' : (compile .typeScript (.map [definitions])).result = .ok c'' :=
    Traced.result_eq_ok.mpr ⟨_, compile_eq_returned.mpr ⟨[.modelsRegistered 1 0], [],
      by decide +kernel, by decide +kernel, source_of_textKeys rfl, rfl⟩⟩
  have hsource : Modules.SameSource [paths] [definitions, paths] := ⟨rfl, rfl, rfl⟩
  have hpaths := compile_independent hc hc'
  have hdefinitions := (compile_independent hc' hc'').2.1
  exact ⟨hc, hc', hc'', hpaths.1 hsource, hdefinitions rfl,
    hpaths.2.2 hsource (List.nil_subset _)⟩

end Compilation
end ClientCompiler
