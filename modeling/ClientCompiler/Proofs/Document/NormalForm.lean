import ClientCompiler.Proofs.Document.Entries
import ClientCompiler.Proofs.Document.Registries
import ClientCompiler.Proofs.Document.SharedParameters
import ClientCompiler.Proofs.Fields

/-!
The normal form of the parameters of a document. Every operation that lists a tag has all its
parameters at itself, as objects, and path items list none. The operations of the tag are the same,
so that it does not matter where a parameter is listed, or whether it is shared.
-/

namespace ClientCompiler

open Traced (Alike)

def Diagnostic.isOnParameter : Diagnostic → Bool
  | .unresolved _ context => context == some "parameters"
  | _ => false

namespace Operations

def withParameters (params : List Value.Entries) (fields : Value.Entries) : Value.Entries :=
  Value.insert (.str "parameters") (.list (params.map .map)) fields

/-- An entry of a path item that lists no parameters. If it lists the tag, it has at itself those
that it had from both. -/
def Entry.normalized (scope : Scope) (e : Entry) : Entry :=
  { e with
    pathParameters := .null
    fields := if e.lists scope.tag then withParameters (e.inlined scope) e.fields else e.fields }

def normalValue (scope : Scope) (path pathParameters : Value) (kv : Value × Value) : Value :=
  match entryMethod? kv.1 kv.2 with
  | some (method, fields) =>
    .map (Entry.normalized scope ⟨path, pathParameters, method, fields⟩).fields
  | none => kv.2

def normalItem (scope : Scope) (path pathParameters : Value) (item : Value.Entries) :
    Value.Entries :=
  (Value.dropField "parameters" item).map fun kv =>
    (kv.1, normalValue scope path pathParameters kv)

def normalPath (scope : Scope) : Value × Value → Value × Value
  | (path, .map item) =>
    (path, .map (normalItem scope path (Value.fieldD "parameters" item) item))
  | other => other

def normalPaths (scope : Scope) : Value → Value
  | .map paths => .map (paths.map (normalPath scope))
  | other => other

def parameterScope (fields : Value.Entries) (tag : Value) : Scope :=
  ⟨.empty, [], Shape.orEmptyMap (Value.fieldD "parameters" fields), tag⟩

/-- The normal form of a document for a tag. -/
def normalForm (tag : Value) (fields : Value.Entries) : Value.Entries :=
  Value.changeField "paths" (normalPaths (parameterScope fields tag)) fields

section Entries

variable {scope : Scope}

theorem entryMethod?_parameters (value : Value) :
    entryMethod? (.str "parameters") value = none := by
  have hkey : Method.ofKey? "parameters" = none := by decide
  cases value <;> simp [entryMethod?, hkey]

theorem entryMethod?_normalValue (path params key value : Value) :
    entryMethod? key (normalValue scope path params (key, value)) =
      (entryMethod? key value).map fun (method, fields) =>
        (method, (Entry.normalized scope ⟨path, params, method, fields⟩).fields) := by
  unfold normalValue
  cases hmethod : entryMethod? key value with
  | none => simpa using hmethod
  | some found =>
    obtain ⟨method, fields⟩ := found
    obtain rfl := value_of_entryMethod? hmethod
    cases key with
    | str k =>
      obtain ⟨m, hm, hpair⟩ := Option.map_eq_some_iff.mp hmethod
      cases hpair
      simp [entryMethod?, hm]
    | _ => cases hmethod

theorem entriesOfItem_normalItem (path params : Value) (item : Value.Entries) :
    entriesOfItem path .null (normalItem scope path params item) =
      (entriesOfItem path params item).map (Entry.normalized scope) := by
  induction item with
  | nil => rfl
  | cons kv item ih =>
    obtain ⟨key, value⟩ := kv
    unfold normalItem Value.dropField at ih ⊢
    rw [List.filter_cons, entriesOfItem_cons]
    cases hnamed : key.isNamed "parameters" with
    | true =>
      have hkey : key = .str "parameters" := by
        cases key with
        | str k => rw [eq_of_beq hnamed]
        | _ => cases hnamed
      rw [hkey, entryMethod?_parameters]
      exact ih
    | false =>
      simp only [Bool.not_false, if_true, List.map_cons, entriesOfItem_cons,
        entryMethod?_normalValue, ih]
      cases entryMethod? key value with
      | none => rfl
      | some found => rfl

theorem parameters_normalItem (path params : Value) (item : Value.Entries) :
    Value.fieldD "parameters" (normalItem scope path params item) = .null := by
  have hnone : Value.field "parameters" (normalItem scope path params item) = none := by
    rw [← Option.isNone_iff_eq_none, ← Option.not_isSome, normalItem, Value.field_map_values,
      Value.field_dropField_self]
    rfl
  rw [Value.fieldD, hnone]
  rfl

theorem entriesOf_normalPaths (paths : Value.Entries) :
    entriesOf (paths.map (normalPath scope)) =
      (entriesOf paths).map (Entry.normalized scope) := by
  unfold entriesOf
  rw [List.flatMap_map, List.map_flatMap]
  congr 1
  funext kv
  obtain ⟨path, value⟩ := kv
  cases value with
  | map item =>
    rw [normalPath, entriesOfPath, parameters_normalItem]
    exact entriesOfItem_normalItem path _ item
  | _ => rfl

theorem textPaths_normalPaths {paths : Value.Entries} (h : TextPaths paths) :
    TextPaths (paths.map (normalPath scope)) := by
  intro kv hkv
  obtain ⟨⟨path, value⟩, hmem, rfl⟩ := List.mem_map.mp hkv
  have htext := h _ hmem
  cases value with
  | map item => exact htext
  | _ => exact htext

end Entries

section Extraction

variable {scope : Scope}

def Apart (l m : List Diagnostic) : Prop := m = l.filter (!·.isOnParameter)

theorem joins_apart : Joins Apart := joins_filter _

theorem context_ne_parameters (method : Method) (path : String) :
    method.title ++ " " ++ path ≠ "parameters" := by
  intro h
  have hhead := congrArg (·.toList.head?) h
  cases method <;> simp [Method.title] at hhead

theorem reportsAlike_apart (scope : Scope) (method : Method) (path : String) :
    Schema.ReportsAlike Apart scope.table scope.registry scope.registry
      (method.title ++ " " ++ path) := by
  intro target
  simp only [Schema.danglingLog, Apart]
  split
  · rfl
  · have happart : (some (method.title ++ " " ++ path) == some "parameters") = false := by
      simpa using context_ne_parameters method path
    rw [List.filter_cons_of_pos (by simp only [Diagnostic.isOnParameter, happart]; rfl)]
    rfl

theorem isOnParameter_of_parameterList {v : Value} {d : Diagnostic}
    (h : d ∈ (parameterList scope v).log) : d.isOnParameter = true := by
  rcases Traced.mem_log_bind.mp h with h | ⟨_, _, h⟩
  · cases h
  · obtain ⟨_, _, h⟩ := Traced.mem_log_each h
    obtain ⟨_, _, _, _, _, _, rfl⟩ := Parameters.reference_of_report h
    rfl

theorem isOnParameter_of_parameters {e : Entry} {d : Diagnostic}
    (h : d ∈ (e.parameters scope).log) : d.isOnParameter = true := by
  rcases Traced.mem_log_bind.mp h with h | ⟨_, _, h⟩
  · exact isOnParameter_of_parameterList h
  · rcases Traced.mem_log_bind.mp h with h | ⟨_, _, h⟩
    · exact isOnParameter_of_parameterList h
    · cases h

theorem plain_of_parameterList (hshared : Parameters.SharedPlainly scope.shared) {v : Value}
    {params : List Value.Entries} (h : (parameterList scope v).result = .ok params) :
    ∀ p ∈ params, Parameters.sharedReference? p = none := by
  obtain ⟨vs, _, h⟩ := Traced.result_bind_eq_ok.mp h
  rw [Traced.result_each, mapM_eq_ok] at h
  intro p hp
  obtain ⟨v, _, hv⟩ := exists_of_forall₂_of_mem h hp
  exact Parameters.plain_of_dereference hshared hv

theorem parameterList_of_plain {params : List Value.Entries}
    (h : ∀ p ∈ params, Parameters.sharedReference? p = none) :
    parameterList scope (.list (params.map .map)) = ⟨.ok params, []⟩ := by
  have hitems : Shape.items (Shape.orEmptyList (.list (params.map .map))) =
      .ok (params.map .map) := by
    unfold Shape.orEmptyList
    split
    · rfl
    · next hempty =>
      have hnil : params.map Value.map = [] := by simpa [Value.truthy] using hempty
      rw [hnil]
      rfl
  have heach : Traced.each (Parameters.dereference scope.shared) (params.map .map) =
      ⟨.ok params, []⟩ := by
    clear hitems
    rw [Traced.each_map]
    induction params with
    | nil => rfl
    | cons p ps ih =>
      obtain ⟨hp, hps⟩ := List.forall_mem_cons.mp h
      rw [Traced.each, Parameters.dereference_of_plain hp, ih hps]
      rfl
  rw [parameterList, hitems]
  exact heach

theorem field_withParameters {name : String} (hne : name ≠ "parameters")
    (params : List Value.Entries) (fields : Value.Entries) :
    Value.fieldD name (withParameters params fields) = Value.fieldD name fields := by
  unfold Value.fieldD withParameters
  rw [Value.field_insert_ne hne]

theorem parameters_withParameters (params : List Value.Entries) (fields : Value.Entries) :
    Value.fieldD "parameters" (withParameters params fields) = .list (params.map .map) := by
  unfold Value.fieldD withParameters
  rw [Value.field_insert_self]
  rfl

theorem hasTag_normalized (tag : Value) (e : Entry) :
    hasTag (e.normalized scope).fields tag = hasTag e.fields tag := by
  unfold hasTag Entry.normalized
  split
  · rw [field_withParameters (by decide)]
  · rfl

/-- The parameters of a normal operation are those that it had, whatever is shared, and nothing is
reported of them. -/
theorem parameters_normalized (hshared : Parameters.SharedPlainly scope.shared) {e : Entry}
    {merged : List Value.Entries} (hlists : e.lists scope.tag = true)
    (h : (e.parameters scope).result = .ok merged) (scope' : Scope) :
    (e.normalized scope).parameters scope' = ⟨.ok merged, []⟩ := by
  have hinlined : e.inlined scope = merged := by
    rw [Entry.inlined, h]
    rfl
  have hown : Value.fieldD "parameters" (e.normalized scope).fields =
      .list (merged.map .map) := by
    rw [Entry.normalized, if_pos hlists, hinlined, parameters_withParameters]
  simp only [Entry.parameters, Traced.bind_eq, Traced.result_bind_eq_ok] at h
  obtain ⟨inherited, hinherited, own, hown', hmerge⟩ := h
  have hplain : ∀ p ∈ merged, Parameters.sharedReference? p = none := by
    intro p hp
    rcases (Parameters.of_mem_merge hmerge hp).1 with hp | hp
    · exact plain_of_parameterList hshared hinherited p hp
    · exact plain_of_parameterList hshared hown' p hp
  have hnull : parameterList scope' (e.normalized scope).pathParameters = ⟨.ok [], []⟩ := rfl
  have hself := Parameters.merge_nil fun p hp => (Parameters.of_mem_merge hmerge hp).2
  rw [Entry.parameters, hnull, hown, parameterList_of_plain hplain]
  simp [Traced.bind, Traced.lift, hself]

theorem parameters_alike (hshared : Parameters.SharedPlainly scope.shared) {e : Entry}
    {merged : List Value.Entries} (hlists : e.lists scope.tag = true)
    (h : (e.parameters scope).result = .ok merged) (scope' : Scope) :
    Alike Apart (e.parameters scope) ((e.normalized scope).parameters scope') := by
  rw [parameters_normalized hshared hlists h]
  refine ⟨h, (List.filter_eq_nil_iff.mpr ?_).symm⟩
  intro d hd
  simp [isOnParameter_of_parameters hd]

theorem returnType_withParameters (context : String) (params : List Value.Entries)
    (fields : Value.Entries) :
    returnType scope context (withParameters params fields) = returnType scope context fields := by
  unfold returnType
  rw [field_withParameters (by decide)]

theorem assembled_withParameters (path : String) (method : Method) (params : List Value.Entries)
    (fields : Value.Entries) (result : Option TypeNode) (typed : List Parameter × List String) :
    assembled scope path method (withParameters params fields) result typed =
      assembled scope path method fields result typed := by
  unfold assembled
  rw [field_withParameters (by decide), field_withParameters (by decide)]

theorem extract_alike_normalized (hshared : Parameters.SharedPlainly scope.shared) {e : Entry}
    {found : Found} (hlists : e.lists scope.tag = true)
    (h : (e.extract scope).result = .ok found) (shared : Value) :
    Alike Apart (e.extract scope)
      ((e.normalized scope).extract { scope with shared := shared }) := by
  obtain ⟨x, -⟩ := extraction_of_extract h
  have hfields : (e.normalized scope).fields = withParameters (e.inlined scope) e.fields :=
    if_pos hlists
  have hreports := reportsAlike_apart scope e.method x.path
  rw [extract_eq x.path_eq, extract_eq (e := e.normalized scope) x.path_eq, hfields,
    returnType_withParameters]
  refine (returnType_alike joins_apart scope _ rfl hreports _).bind joins_apart fun result _ => ?_
  refine (parameters_alike hshared hlists x.parameters_eq _).bind joins_apart fun merged _ => ?_
  refine (Parameters.extractAll_alike joins_apart hreports merged).bind joins_apart
    fun typed _ => ?_
  rw [assembled_withParameters]
  exact (Alike.lift joins_apart _).bind joins_apart fun _ _ => Alike.pure joins_apart _

theorem found_alike_normalized (hshared : Parameters.SharedPlainly scope.shared) {e : Entry}
    {found : Found} (h : (e.found scope).result = .ok found) (shared : Value) :
    Alike Apart (e.found scope) ((e.normalized scope).found { scope with shared := shared }) := by
  obtain ⟨listed, hlisted, hfound⟩ := Traced.result_bind_eq_ok.mp h
  rw [Traced.result_lift] at hlisted
  unfold Entry.found
  rw [hasTag_normalized, hlisted]
  cases listed with
  | true =>
    have hlists : e.lists scope.tag = true := by
      rw [Entry.lists, hlisted]
      rfl
    exact extract_alike_normalized hshared hlists hfound shared
  | false => exact Alike.pure joins_apart _

theorem ofPaths_alike_normalPaths (hshared : Parameters.SharedPlainly scope.shared)
    {paths : Value.Entries} {found : Found} (h : (ofPaths scope paths).result = .ok found)
    (shared : Value) :
    Alike Apart (ofPaths scope paths)
      (ofPaths { scope with shared := shared } (paths.map (normalPath scope))) := by
  have htext := textPaths_of_ofPaths h
  rw [ofPaths_eq htext, Traced.result_bind_eq_ok] at h
  obtain ⟨parts, hparts, -⟩ := h
  rw [ofPaths_eq htext, ofPaths_eq (textPaths_normalPaths htext), entriesOf_normalPaths,
    Traced.each_map]
  refine Alike.bind joins_apart ?_ fun fs _ => Alike.pure joins_apart _
  refine Alike.each joins_apart fun e he => ?_
  rw [Traced.result_each, mapM_eq_ok] at hparts
  obtain ⟨part, -, hpart⟩ := exists_of_forall₂_of_mem hparts.flip he
  exact found_alike_normalized hshared hpart shared

end Extraction

section Documents

variable {table : TypeTable} {registry : List String} {fields : Value.Entries} {tag : Value}

theorem normalPath_parameterScope :
    normalPath (parameterScope fields tag) =
      normalPath (scopeOf table registry (.map fields) tag) := rfl

theorem orEmptyMap_normalPaths {scope : Scope} {v : Value} {paths : Value.Entries}
    (h : Shape.entries (Shape.orEmptyMap v) = .ok paths) :
    Shape.entries (Shape.orEmptyMap (normalPaths scope v)) =
      .ok (paths.map (normalPath scope)) := by
  cases v with
  | map kvs =>
    cases kvs with
    | nil =>
      obtain rfl : [] = paths := Except.ok.inj h
      rfl
    | cons kv kvs =>
      obtain rfl : kv :: kvs = paths := Except.ok.inj h
      rfl
  | _ =>
    unfold Shape.orEmptyMap at h
    split at h
    · cases h
    · next hfalse =>
      obtain rfl : [] = paths := Except.ok.inj h
      simp only [normalPaths, Shape.orEmptyMap, hfalse]
      rfl

theorem paths_normalForm :
    Value.fieldD "paths" (normalForm tag fields) =
      normalPaths (parameterScope fields tag) (Value.fieldD "paths" fields) := by
  unfold Value.fieldD normalForm
  rw [Value.field_changeField_self]
  cases Value.field "paths" fields <;> rfl

theorem ofDocument_of_normalPaths {other : Value.Entries} {found : Found} {log : List Diagnostic}
    (hshared : Parameters.SharedPlainly (Shape.orEmptyMap (Value.fieldD "parameters" fields)))
    (h : ofDocument table registry (.map fields) tag = ⟨.ok found, log⟩)
    (hother : Value.fieldD "paths" other = Value.fieldD "paths" (normalForm tag fields)) :
    ofDocument table registry (.map other) tag =
      ⟨.ok found, log.filter (!·.isOnParameter)⟩ := by
  have hreturns := congrArg Traced.result h
  simp only [ofDocument, Traced.bind_eq, Traced.result_bind_eq_ok, Traced.result_lift] at hreturns
  obtain ⟨kvs, hkvs, paths, hpaths, -⟩ := hreturns
  obtain rfl : fields = kvs := Except.ok.inj hkvs
  have hnormal : Shape.entries (Shape.orEmptyMap (Value.fieldD "paths" other)) =
      .ok (paths.map (normalPath (scopeOf table registry (.map fields) tag))) := by
    rw [hother, paths_normalForm, orEmptyMap_normalPaths hpaths, normalPath_parameterScope]
  rw [ofDocument_eq hpaths] at h
  have halike := ofPaths_alike_normalPaths hshared (congrArg Traced.result h)
    (Shape.orEmptyMap (Value.fieldD "parameters" other))
  rw [h] at halike
  obtain ⟨m, hm, rfl⟩ := halike.of_returned
  rw [ofDocument_eq hnormal]
  exact hm

/-- The normal form of a document has the same operations and the same imports in the same order,
and the same reports but those on references to shared parameters. So two documents that have the
same normal form are as good as each other. -/
theorem ofDocument_normalForm {found : Found} {log : List Diagnostic}
    (hshared : Parameters.SharedPlainly (Shape.orEmptyMap (Value.fieldD "parameters" fields)))
    (h : ofDocument table registry (.map fields) tag = ⟨.ok found, log⟩) :
    ofDocument table registry (.map (normalForm tag fields)) tag =
        ⟨.ok found, log.filter (!·.isOnParameter)⟩ ∧
      ∀ other found' log',
        Parameters.SharedPlainly (Shape.orEmptyMap (Value.fieldD "parameters" other)) →
        ofDocument table registry (.map other) tag = ⟨.ok found', log'⟩ →
        Value.fieldD "paths" (normalForm tag other) =
          Value.fieldD "paths" (normalForm tag fields) →
        found' = found ∧ log'.filter (!·.isOnParameter) = log.filter (!·.isOnParameter) := by
  have hnormal := ofDocument_of_normalPaths hshared h rfl
  refine ⟨hnormal, ?_⟩
  intro other found' log' hother hfound hpaths
  have hsame := ofDocument_of_normalPaths hother hfound hpaths.symm
  rw [hnormal] at hsame
  injection hsame with hresult hlog
  exact ⟨(Except.ok.inj hresult).symm, hlog.symm⟩

/-- A path lists a shared limit and a shared parameter that is missing. The operation replaces the
limit by its own; the other operation is not one of the tag. -/
theorem ofDocument_normalForm_pets :
    let ref (name : String) : Value := .map [(.str "$ref", .str ("#/parameters/" ++ name))]
    let param (name location type : String) : Value.Entries :=
      [(.str "name", .str name), (.str "in", .str location), (.str "type", .str type)]
    let shared : Value.Entries := [(.str "Limit", .map (param "limit" "query" "integer")),
      (.str "Trace", .map (param "trace" "header" "string"))]
    let list : Value.Entries := [(.str "tags", .list [.str "pet"]),
      (.str "operationId", .str "list"), (.str "parameters", .list [.map (param "limit" "query" "string")])]
    let post : Value.Entries := [(.str "tags", .list [.str "store"]),
      (.str "parameters", .list [ref "Gone"])]
    let item : Value.Entries := [(.str "parameters", .list [ref "Limit", ref "Trace", ref "Lost"]),
      (.str "get", .map list), (.str "post", .map post)]
    let fields : Value.Entries :=
      [(.str "paths", .map [(.str "/pets", .map item)]), (.str "parameters", .map shared)]
    let inlined : Value.Entries := [(.str "tags", .list [.str "pet"]),
      (.str "operationId", .str "list"), (.str "parameters",
        .list [.map (param "trace" "header" "string"), .map (param "limit" "query" "string")])]
    let found : Found := ⟨[⟨"list", .get, "/pets", none, "",
      [⟨"trace", .header, "string", false⟩, ⟨"limit", .query, "string", false⟩]⟩], []⟩
    Value.same (.map (normalForm (.str "pet") fields))
        (.map [(.str "paths", .map [(.str "/pets", .map [(.str "get", .map inlined),
          (.str "post", .map post)])]), (.str "parameters", .map shared)]) ∧
      ofDocument .typeScript [] (.map fields) (.str "pet") =
        ⟨.ok found, [.unresolved "#/parameters/Lost" (some "parameters")]⟩ ∧
      ofDocument .typeScript [] (.map (normalForm (.str "pet") fields)) (.str "pet") =
        ⟨.ok found, []⟩ := by
  intro ref param shared list post item fields inlined found
  have hshared :
      Parameters.SharedPlainly (Shape.orEmptyMap (Value.fieldD "parameters" fields)) := by
    show Parameters.SharedPlainly (.map shared)
    refine Parameters.sharedPlainly_of_forall ?_
    intro kv hkv target htarget
    rcases List.mem_cons.mp hkv with rfl | hkv
    · cases htarget
      rfl
    · obtain rfl := List.mem_singleton.mp hkv
      cases htarget
      rfl
  have hfound : ofDocument .typeScript [] (.map fields) (.str "pet") =
      ⟨.ok found, [.unresolved "#/parameters/Lost" (some "parameters")]⟩ := by decide +kernel
  exact ⟨by decide +kernel, hfound, (ofDocument_normalForm hshared hfound).1⟩

end Documents
end Operations
end ClientCompiler
