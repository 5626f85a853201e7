import ClientCompiler.Proofs.Document.Shapes

/-!
Well-shaped documents compile. The shape is asked of what the compilation reads; references may be
missing or go in a circle, and types, locations and the keys of path items may be unknown.
-/

namespace ClientCompiler

open TwoPass (schemaFields)
open Shape (falsyOr isTexts isTextMap)

namespace Operations

structure Entry.Shape (e : Entry) : Prop where
  tags : falsyOr isTexts (Value.fieldD "tags" e.fields) = true
  operationId : falsyOr Value.isStr (Value.fieldD "operationId" e.fields) = true
  description : Schema.isTextOrNull (Value.fieldD "description" e.fields) = true
  responses : falsyOr Value.isMap (Value.fieldD "responses" e.fields) = true
  result : ∀ schema ∈ resultSchema? e.fields, Schema.WellTyped (Schema.chain schema)
  inherited : Parameters.ListShape e.pathParameters
  own : Parameters.ListShape (Value.fieldD "parameters" e.fields)

instance (e : Entry) : Decidable e.Shape :=
  decidable_of_iff (_ ∧ _ ∧ _ ∧ _ ∧ _ ∧ _ ∧ _)
    ⟨fun h => ⟨h.1, h.2.1, h.2.2.1, h.2.2.2.1, h.2.2.2.2.1, h.2.2.2.2.2.1, h.2.2.2.2.2.2⟩,
      fun h => ⟨h.tags, h.operationId, h.description, h.responses, h.result, h.inherited, h.own⟩⟩

variable {scope : Scope} {known : Value.Entries} {e : Entry}

theorem returns_hasTag (h : e.Shape) (tag : Value) :
    ∃ listed, hasTag e.fields tag = .ok listed := by
  obtain ⟨ts, hts⟩ := Shape.orEmptyList_of_texts h.tags
  exact ⟨_, by rw [hasTag, hts]; rfl⟩

theorem returns_returnType (h : e.Shape) (context : String) :
    ∃ t, (returnType scope context e.fields).result = .ok t := by
  have hentries := Shape.entries_of_map h.responses
  refine Traced.returns_bind ⟨_, hentries⟩ fun responses heq => ?_
  split
  · next schema hschema =>
    have hresult : resultSchema? e.fields = some schema := by
      rw [Traced.result_lift] at heq
      simp [resultSchema?, heq, Except.toOption, hschema]
    have hchain := h.result schema hresult
    exact Traced.returns_bind (Schema.returns_fieldType hchain _ _) fun t _ => ⟨_, rfl⟩
  · exact ⟨none, rfl⟩

theorem returns_parameterList (hscope : scope.shared = .map known)
    (hshared : ∀ kv ∈ known, Parameters.TypedShape (schemaFields kv.2)) {v : Value}
    (h : Parameters.ListShape v) :
    ∃ ps, (parameterList scope v).result = .ok ps ∧ ∀ p ∈ ps, Parameters.TypedShape p := by
  have hitems : ∃ xs, Shape.items (Shape.orEmptyList v) = .ok xs ∧
      ∀ x ∈ xs, Parameters.ListedShape x := by
    unfold Shape.orEmptyList
    cases htruthy : v.truthy with
    | false => exact ⟨[], rfl, nofun⟩
    | true =>
      cases v with
      | list xs => exact ⟨xs, rfl, h⟩
      | _ =>
        have hfalsy : Value.truthy _ = false := h
        rw [htruthy] at hfalsy
        cases hfalsy
  obtain ⟨xs, hxs, hlisted⟩ := hitems
  have hstands : ∀ x ∈ xs, ∃ p, (Parameters.dereference scope.shared x).result = .ok p ∧
      Parameters.TypedShape p := by
    rw [hscope]
    exact fun x hx => Parameters.returns_dereference (hlisted x hx) hshared
  obtain ⟨ps, hps⟩ := Traced.returns_each (f := Parameters.dereference scope.shared) fun x hx =>
    (hstands x hx).imp fun _ h => h.1
  refine ⟨ps, Traced.result_bind_eq_ok.mpr ⟨xs, hxs, hps⟩, ?_⟩
  intro p hp
  rw [Traced.result_each, mapM_eq_ok] at hps
  obtain ⟨x, hx, hdereference⟩ := exists_of_forall₂_of_mem hps hp
  obtain ⟨q, hq, htyped⟩ := hstands x hx
  obtain rfl := Except.ok.inj (hdereference.symm.trans hq)
  exact htyped

theorem returns_parameters (hscope : scope.shared = .map known)
    (hshared : ∀ kv ∈ known, Parameters.TypedShape (schemaFields kv.2)) (h : e.Shape) :
    ∃ merged, (e.parameters scope).result = .ok merged ∧
      ∀ p ∈ merged, Parameters.TypedShape p := by
  obtain ⟨inherited, hinherited, hi⟩ := returns_parameterList hscope hshared h.inherited
  obtain ⟨own, hown, ho⟩ := returns_parameterList hscope hshared h.own
  have hkeys : ∀ p ∈ own ++ inherited, Parameters.KeyShape p := fun p hp =>
    (List.mem_append.mp hp).elim (fun hp => (ho p hp).key) fun hp => (hi p hp).key
  obtain ⟨merged, hmerged⟩ := Parameters.returns_merge hkeys
  refine ⟨merged, ?_, ?_⟩
  · unfold Entry.parameters
    simp only [Traced.bind_eq, Traced.result_bind_eq_ok]
    exact ⟨inherited, hinherited, own, hown, hmerged⟩
  · intro p hp
    rcases (Parameters.of_mem_merge hmerged hp).1 with hp | hp
    · exact hi p hp
    · exact ho p hp

theorem returns_assembled (h : e.Shape) (path : String) (result : Option TypeNode)
    (typed : List Parameter × List String) :
    ∃ found, (assembled scope path e.method e.fields result typed).result = .ok found := by
  have hname : (if (Value.fieldD "operationId" e.fields).truthy then
      Value.fieldD "operationId" e.fields
      else .str (Path.operationName e.method path)).isStr = true := by
    split
    · next htruthy =>
      rcases Shape.falsyOr_cases h.operationId with hfalsy | htext
      · rw [htruthy] at hfalsy
        cases hfalsy
      · exact htext
    · rfl
  refine Traced.returns_bind ⟨(), ?_⟩ fun _ _ => ⟨_, rfl⟩
  rw [Shape.textAt_of_text hname, Shape.optionalTextAt_of_text h.description]
  rfl

theorem returns_found (hscope : scope.shared = .map known)
    (hshared : ∀ kv ∈ known, Parameters.TypedShape (schemaFields kv.2)) (h : e.Shape)
    {path : String} (hpath : e.path = .str path) :
    ∃ found, (e.found scope).result = .ok found := by
  refine Traced.returns_bind (returns_hasTag h scope.tag) fun listed _ => ?_
  cases listed with
  | false => exact ⟨_, rfl⟩
  | true =>
    rw [if_pos rfl, extract_eq hpath]
    refine Traced.returns_bind (returns_returnType h _) fun result _ => ?_
    obtain ⟨merged, hmerged, htyped⟩ := returns_parameters hscope hshared h
    refine Traced.returns_bind ⟨merged, hmerged⟩ fun other heq => ?_
    obtain rfl := Except.ok.inj (hmerged.symm.trans heq)
    refine Traced.returns_bind (Parameters.returns_extractAll htyped _ _) fun typed _ => ?_
    exact returns_assembled h path result typed

theorem path_of_mem_entriesOf {paths : Value.Entries} (h : ∀ kv ∈ paths, kv.1.isStr = true)
    (he : e ∈ entriesOf paths) : ∃ p, e.path = .str p := by
  obtain ⟨⟨path, value⟩, hkv, he⟩ := List.mem_flatMap.mp he
  have hpath := h _ hkv
  cases value with
  | map item =>
    obtain ⟨kv, -, he⟩ := List.mem_filterMap.mp he
    obtain ⟨found, -, rfl⟩ := Option.map_eq_some_iff.mp he
    cases path with
    | str p => exact ⟨p, rfl⟩
    | _ => cases hpath
  | _ => cases he

end Operations

namespace Modules

open Operations (Entry entriesOf entriesOfItem entriesOfItem_cons entryMethod?
  value_of_entryMethod?)

def TagsShape : Value → Prop
  | .null => True
  | .list xs => ∀ x ∈ xs, ∀ tag ∈ namedTag? x,
    tag.1.isStr = true ∧ Schema.isTextOrNull tag.2 = true
  | _ => False

instance : (v : Value) → Decidable (TagsShape v)
  | .null => .isTrue trivial
  | .list xs => inferInstanceAs (Decidable (∀ x ∈ xs, ∀ tag ∈ namedTag? x,
      tag.1.isStr = true ∧ Schema.isTextOrNull tag.2 = true))
  | .bool _ | .int _ | .float _ | .str _ | .bytes _ | .date _ | .moment _ | .tuple _ | .set _
  | .map _ | .again _ => .isFalse id

theorem returns_itemTags {path params : Value} {item : Value.Entries}
    (h : ∀ e ∈ entriesOfItem path params item, e.Shape) :
    ∃ ts : List String, itemTags item = .ok (ts.map .str) := by
  induction item with
  | nil => exact ⟨[], rfl⟩
  | cons kv item ih =>
    obtain ⟨key, value⟩ := kv
    rw [entriesOfItem_cons] at h
    cases hmethod : entryMethod? key value with
    | none =>
      rw [hmethod] at h
      cases value with
      | map fields =>
        have hname : namesMethod key = false := by
          rw [← isSome_entryMethod? key fields, hmethod]
          rfl
        rw [itemTags, hname]
        exact ih h
      | _ => exact ih h
    | some found =>
      rw [hmethod] at h
      obtain ⟨hhead, hrest⟩ := List.forall_mem_cons.mp h
      obtain rfl := value_of_entryMethod? hmethod
      have hname : namesMethod key = true := by
        rw [← isSome_entryMethod? key found.2, hmethod]
        rfl
      obtain ⟨ts, hts⟩ := Shape.orEmptyList_of_texts hhead.tags
      obtain ⟨rest, hrest⟩ := ih hrest
      refine ⟨ts ++ rest, ?_⟩
      rw [itemTags, hname, if_pos rfl, hts, Shape.members_texts, hrest, List.map_append]
      rfl

theorem returns_pathTags {paths : Value.Entries} (h : ∀ e ∈ entriesOf paths, e.Shape) :
    ∃ ts : List String, pathTags paths = .ok (ts.map .str) := by
  induction paths with
  | nil => exact ⟨[], rfl⟩
  | cons kv paths ih =>
    obtain ⟨path, value⟩ := kv
    rw [entriesOf, List.flatMap_cons, List.forall_mem_append] at h
    cases value with
    | map item =>
      obtain ⟨ts, hts⟩ := returns_itemTags h.1
      obtain ⟨rest, hrest⟩ := ih h.2
      exact ⟨ts ++ rest, by rw [pathTags, hts, hrest, List.map_append]; rfl⟩
    | _ => exact ih h.2

end Modules

/-- The shape of a document that compiles. What is not read may be any value, and so may be what
stands where an object is looked for. -/
structure WellShaped (fields : Value.Entries) : Prop where
  keys : fields.all (·.1.isStr) = true
  definitions : falsyOr isTextMap (Value.fieldD "definitions" fields) = true
  paths : falsyOr isTextMap (Value.fieldD "paths" fields) = true
  parameters : falsyOr isTextMap (Value.fieldD "parameters" fields) = true
  definition : ∀ kv ∈ schemaFields (Value.fieldD "definitions" fields),
    TwoPass.DefinitionShape (schemaFields kv.2)
  operation : ∀ e ∈ Operations.entriesOfDocument (.map fields), e.Shape
  parameter : ∀ kv ∈ schemaFields (Value.fieldD "parameters" fields),
    Parameters.TypedShape (schemaFields kv.2)
  tags : Modules.TagsShape (Value.fieldD "tags" fields)

instance (fields : Value.Entries) : Decidable (WellShaped fields) :=
  decidable_of_iff (_ ∧ _ ∧ _ ∧ _ ∧ _ ∧ _ ∧ _ ∧ _)
    ⟨fun h => ⟨h.1, h.2.1, h.2.2.1, h.2.2.2.1, h.2.2.2.2.1, h.2.2.2.2.2.1, h.2.2.2.2.2.2.1,
        h.2.2.2.2.2.2.2⟩,
      fun h => ⟨h.keys, h.definitions, h.paths, h.parameters, h.definition, h.operation,
        h.parameter, h.tags⟩⟩

namespace WellShaped

variable {table : TypeTable} {fields : Value.Entries}

theorem entries_paths (h : WellShaped fields) :
    Shape.entries (Shape.orEmptyMap (Value.fieldD "paths" fields)) =
      .ok (schemaFields (Value.fieldD "paths" fields)) :=
  Shape.entries_of_map (Shape.falsyOr_mono (fun _ => Shape.isMap_of_isTextMap) h.paths)

theorem returns_tags (h : WellShaped fields) : ∃ found, Modules.tags fields = .ok found ∧
    ∀ tag ∈ found, tag.1.isStr = true ∧ Schema.isTextOrNull tag.2 = true := by
  have htags := h.tags
  unfold Modules.tags
  cases hdeclared : Value.fieldD "tags" fields with
  | null =>
    have hentries := h.operation
    rw [Operations.entriesOfDocument_map h.entries_paths] at hentries
    obtain ⟨ts, hts⟩ := Modules.returns_pathTags hentries
    refine ⟨_, bind_eq_ok.mpr ⟨_, h.entries_paths, bind_eq_ok.mpr ⟨_, hts, rfl⟩⟩, ?_⟩
    intro tag htag
    rw [distinct_map_str] at htag
    obtain ⟨v, hv, rfl⟩ := List.mem_map.mp htag
    obtain ⟨t, -, rfl⟩ := List.mem_map.mp hv
    exact ⟨rfl, rfl⟩
  | list xs =>
    rw [hdeclared] at htags
    refine ⟨Modules.declaredTags xs, rfl, ?_⟩
    intro tag htag
    rw [Modules.declaredTags_eq] at htag
    obtain ⟨x, hx, htag⟩ := List.mem_filterMap.mp htag
    exact htags x hx tag htag
  | _ =>
    rw [hdeclared] at htags
    cases htags

theorem returns_operations (h : WellShaped fields) (registry : List String) (tag : Value) :
    ∃ found, (Operations.ofDocument table registry (.map fields) tag).result = .ok found := by
  have hkeys := TwoPass.isStr_of_textMap h.paths
  have hentries := h.operation
  rw [Operations.entriesOfDocument_map h.entries_paths] at hentries
  have hshared := Shape.entries_orEmptyMap (Shape.entries_of_map
    (Shape.falsyOr_mono (fun _ => Shape.isMap_of_isTextMap) h.parameters))
  rw [Operations.ofDocument_eq h.entries_paths,
    Operations.ofPaths_eq fun kv hkv _ => hkeys kv hkv]
  refine Traced.returns_bind (Traced.returns_each fun e he => ?_) fun parts _ => ⟨_, rfl⟩
  obtain ⟨path, hpath⟩ := Operations.path_of_mem_entriesOf hkeys he
  exact Operations.returns_found hshared h.parameter (hentries e he) hpath

theorem returns_modules (h : WellShaped fields) (registry : List String) :
    ∃ modules, (Modules.ofDocument table registry (.map fields)).result = .ok modules := by
  obtain ⟨found, htags, htexts⟩ := h.returns_tags
  refine Traced.returns_bind ⟨found, htags⟩ fun tags heq => ?_
  obtain rfl := Except.ok.inj (htags.symm.trans heq)
  refine Traced.returns_each fun tag htag => ?_
  refine Traced.returns_bind (h.returns_operations registry tag.1) fun operations _ => ?_
  obtain ⟨hname, hdescription⟩ := htexts tag htag
  refine Traced.returns_bind ⟨(), ?_⟩ fun _ _ => ⟨_, rfl⟩
  rw [Shape.textAt_of_text hname, Shape.optionalTextAt_of_text hdescription]
  rfl

end WellShaped

/-- A well-shaped document compiles, under every table of types. -/
theorem compile_of_wellShaped (table : TypeTable) {fields : Value.Entries}
    (h : WellShaped fields) : ∃ c, (compile table (.map fields)).result = .ok c := by
  obtain ⟨models, hmodels⟩ := TwoPass.returns_modelsOf h.definitions h.definition
  obtain ⟨l, hmodels⟩ := Traced.result_eq_ok.mp hmodels
  obtain ⟨modules, hmodules⟩ := h.returns_modules (models.map (·.name))
  obtain ⟨m, hmodules⟩ := Traced.result_eq_ok.mp hmodules
  exact ⟨⟨models, modules, fields⟩, Traced.result_eq_ok.mpr
    ⟨l ++ m, compile_eq_returned.mpr ⟨l, m, hmodels, hmodules, source_of_textKeys h.keys, rfl⟩⟩⟩

/-- A definition that refers to itself and to nothing, a parameter in an unknown place, a shared one
that is missing, a method in capitals, and a key that is no method. -/
theorem compile_of_wellShaped_pets :
    let ref (target : String) : Value := .map [(.str "$ref", .str target)]
    let arrayOf (items : Value) : Value := .map [(.str "type", .str "array"), (.str "items", items)]
    let properties : Value.Entries := [(.str "next", ref "#/definitions/Pet"),
      (.str "tags", arrayOf (arrayOf (ref "#/definitions/Tag"))), (.str "other", ref "pets.json"),
      (.str "odd", .map [(.str "type", .int 0), (.str "enum", .bool true)]), (.str "none", .int 1)]
    let parameters : List Value := [ref "#/parameters/Limit", .null,
      .map [(.str "name", .str "x"), (.str "in", .str "matrix"), (.str "type", .list [.int 1])]]
    let operation : Value.Entries := [(.str "tags", .list [.str "pet", .str "pet"]),
      (.str "parameters", .list parameters), (.str "responses", .map [(.str "200", .str "ok")])]
    let fields : Value.Entries := [(.str "swagger", .list [.null]),
      (.str "definitions", .map [(.str "Pet", .map [(.str "properties", .map properties)]),
        (.str "Pet«", .null)]),
      (.str "paths", .map [(.str "/pets", .map [(.str "GET", .map operation),
        (.str "fetch", .map [(.str "tags", .int 5)])]), (.str "/none", .bool false)])]
    WellShaped fields ∧ ∃ c, (compile .typeScript (.map fields)).result = .ok c := by
  intro ref arrayOf properties parameters operation fields
  have h : WellShaped fields := by decide +kernel
  exact ⟨h, compile_of_wellShaped .typeScript h⟩

end ClientCompiler
