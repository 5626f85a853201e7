import ClientCompiler.Proofs.Document.Closed
import ClientCompiler.Proofs.Document.Grouping
import ClientCompiler.Proofs.Document.SchemaTyping

/-!
Shapes on which no function of the compilation fails. Each function comes with the shape of what it
reads and with the statement that it returns there; what it does not read may be any value.
-/

namespace ClientCompiler

open TwoPass (schemaFields)

namespace Shape

/-- The value does not hold, or it is as `p` says. -/
def falsyOr (p : Value → Bool) (v : Value) : Bool := !v.truthy || p v

def isTexts : Value → Bool
  | .list xs => xs.all Value.isStr
  | _ => false

def isTextMap : Value → Bool
  | .map kvs => kvs.all (·.1.isStr)
  | _ => false

theorem falsyOr_of {p : Value → Bool} {v : Value} (h : p v = true) : falsyOr p v = true := by
  rw [falsyOr, h, Bool.or_true]

theorem falsyOr_cases {p : Value → Bool} {v : Value} (h : falsyOr p v = true) :
    v.truthy = false ∨ p v = true := by
  simpa [falsyOr] using h

theorem isMap_of_isTextMap {v : Value} (h : isTextMap v = true) : v.isMap = true := by
  cases v with
  | map kvs => rfl
  | _ => cases h

theorem falsyOr_mono {p q : Value → Bool} (hpq : ∀ v, p v = true → q v = true) {v : Value}
    (h : falsyOr p v = true) : falsyOr q v = true := by
  rcases falsyOr_cases h with hfalsy | hp
  · simp [falsyOr, hfalsy]
  · exact falsyOr_of (hpq v hp)

theorem exists_texts {xs : List Value} (h : xs.all Value.isStr = true) :
    ∃ ts : List String, xs = ts.map .str :=
  ⟨_, (Operations.map_str_of_all h).symm⟩

theorem orEmptyList_of_texts {v : Value} (h : falsyOr isTexts v = true) :
    ∃ ts : List String, orEmptyList v = .list (ts.map .str) := by
  unfold orEmptyList
  rcases falsyOr_cases h with hfalsy | htexts
  · exact ⟨[], by simp [hfalsy]⟩
  · cases v with
    | list xs =>
      obtain ⟨ts, rfl⟩ := exists_texts htexts
      refine ⟨ts, ?_⟩
      split
      · rfl
      · next hempty =>
        cases ts with
        | nil => rfl
        | cons t ts => exact absurd rfl hempty
    | _ => cases htexts

theorem members_texts (ts : List String) :
    members (.list (ts.map .str)) = .ok (ts.map .str) := by
  have hhashable : Value.allHashable (ts.map .str) = true := by
    induction ts with
    | nil => rfl
    | cons t ts ih => simp [Value.allHashable, Value.hashable, ih]
  simp [members, items, hhashable, bind, Except.bind, pure, Except.pure]

theorem entries_of_map {v : Value} (h : falsyOr Value.isMap v = true) :
    entries (orEmptyMap v) = .ok (schemaFields v) := by
  unfold orEmptyMap
  cases htruthy : v.truthy with
  | true =>
    rcases falsyOr_cases h with hfalsy | hmap
    · rw [htruthy] at hfalsy
      cases hfalsy
    · cases v with
      | map kvs => rfl
      | _ => cases hmap
  | false =>
    cases v with
    | map kvs =>
      cases kvs with
      | nil => rfl
      | cons kv kvs => cases htruthy
    | _ => rfl

theorem textAt_of_text {v : Value} (h : v.isStr = true) (place : String) :
    textAt place v = [] := by
  cases v with
  | str s => rfl
  | _ => cases h

theorem optionalTextAt_of_text {v : Value} (h : Schema.isTextOrNull v = true) (place : String) :
    optionalTextAt place v = [] := by
  cases v with
  | str s => rfl
  | null => rfl
  | _ => cases h

end Shape

open Shape (falsyOr isTexts isTextMap)

namespace Schema

variable {table : TypeTable} {c : List Link}

/-- The reference and the type of a schema are falsy or texts. A chain without end, which no text
in JSON has, is not well typed. -/
def Link.wellTyped : Link → Bool
  | .schema s =>
    falsyOr Value.isStr (Value.fieldD "$ref" s) && falsyOr Value.isStr (Value.fieldD "type" s)
  | .endless => false

def WellTyped (c : List Link) : Prop := ∀ l ∈ c, l.wellTyped = true

instance (c : List Link) : Decidable (WellTyped c) :=
  inferInstanceAs (Decidable (∀ l ∈ c, l.wellTyped = true))

theorem wellTyped_schema {s : Value.Entries} {rest : List Link} :
    WellTyped (.schema s :: rest) ↔
      (falsyOr Value.isStr (Value.fieldD "$ref" s) = true ∧
        falsyOr Value.isStr (Value.fieldD "type" s) = true) ∧ WellTyped rest := by
  unfold WellTyped
  rw [List.forall_mem_cons, Link.wellTyped, Bool.and_eq_true]

theorem not_wellTyped_endless {rest : List Link} : ¬WellTyped (.endless :: rest) :=
  fun h => Bool.false_ne_true (h .endless List.mem_cons_self)

mutual

theorem endless_not_mem_chainOfValue : ∀ v : Value, v.isEndless = false →
    .endless ∉ chainOfValue v
  | .map kvs => fun h => by
    rw [chainOfValue, List.mem_cons, not_or]
    exact ⟨nofun, endless_not_mem_chainOfItems kvs h⟩
  | .again isMap => nofun
  | .null | .bool _ | .int _ | .float _ | .str _ | .bytes _ | .date _ | .moment _ | .list _
  | .tuple _ | .set _ => fun _ => by simp [chainOfValue]

theorem endless_not_mem_chainOfItems : ∀ kvs : List (Value × Value),
    Value.anyEntryEndless kvs = false → .endless ∉ chainOfItems kvs
  | [] => fun _ => List.not_mem_nil
  | (k, v) :: kvs => fun h => by
    rw [Value.anyEntryEndless, Bool.or_eq_false_iff] at h
    cases k with
    | str name =>
      rw [chainOfItems]
      split
      · exact endless_not_mem_chainOfValue v h.1
      · exact endless_not_mem_chainOfItems kvs h.2
    | _ => exact endless_not_mem_chainOfItems kvs h.2

end

/-- Where a schema has an end, its chain is well typed if the references and types along it are. -/
theorem wellTyped_of_finite {schema : Value.Entries}
    (hfinite : Value.anyEntryEndless schema = false)
    (h : ∀ s, .schema s ∈ chain schema → falsyOr Value.isStr (Value.fieldD "$ref" s) = true ∧
      falsyOr Value.isStr (Value.fieldD "type" s) = true) : WellTyped (chain schema) := by
  intro l hl
  cases l with
  | schema s => exact Bool.and_eq_true_iff.mpr (h s hl)
  | endless =>
    rcases List.mem_cons.mp hl with heq | hitems
    · cases heq
    · exact absurd hitems (endless_not_mem_chainOfItems schema hfinite)

theorem returns_target? {v : Value} (h : falsyOr Value.isStr v = true) :
    ∃ t, Reference.target? table v = .ok t := by
  rcases Shape.falsyOr_cases h with hfalsy | htext
  · cases v with
    | bytes b =>
      have hempty : b.isEmpty = true := by simpa [Value.truthy] using hfalsy
      simp [Reference.target?, Reference.name?, hempty, Except.map]
    | _ => simp [Reference.target?, Reference.name?, hfalsy, Except.map]
  · cases v with
    | str s => exact ⟨_, rfl⟩
    | _ => cases htext

theorem returns_ofValue {v : Value} (h : falsyOr Value.isStr v = true) :
    ∃ t, TypeNode.ofValue table v = .ok t := by
  rcases Shape.falsyOr_cases h with hfalsy | htext
  · cases v with
    | bytes b =>
      have hempty : b = [] := by simpa [Value.truthy] using hfalsy
      exact ⟨_, by rw [hempty]; rfl⟩
    | _ => simp [TypeNode.ofValue, hfalsy]
  · cases v with
    | str s => exact ⟨_, rfl⟩
    | _ => cases htext

/-- Along a well-typed chain each of the three readings returns. The induction is on the chain. -/
theorem returns_referenceTarget? (h : WellTyped c) : ∃ t, referenceTarget? table c = .ok t := by
  induction c with
  | nil => exact ⟨none, rfl⟩
  | cons l rest ih =>
    cases l with
    | endless => exact absurd h not_wellTyped_endless
    | schema s =>
      obtain ⟨⟨href, -⟩, hrest⟩ := wellTyped_schema.mp h
      refine returns_bind (returns_target? href) fun found _ => ?_
      cases found with
      | some t => exact ⟨some t, rfl⟩
      | none =>
        dsimp only
        split
        · exact returns_bind (ih hrest) fun t _ => ⟨_, rfl⟩
        · exact ⟨none, rfl⟩

theorem returns_inlineType (h : WellTyped c) : ∃ t, inlineType table c = .ok t := by
  induction c with
  | nil => exact ⟨_, rfl⟩
  | cons l rest ih =>
    cases l with
    | endless => exact absurd h not_wellTyped_endless
    | schema s =>
      obtain ⟨⟨-, htype⟩, hrest⟩ := wellTyped_schema.mp h
      refine returns_bind (returns_ofValue htype) fun node _ => ?_
      split
      · exact returns_bind (ih hrest) fun t _ => ⟨_, rfl⟩
      · exact ⟨node, rfl⟩

theorem returns_fieldType (h : WellTyped c) (registry : List String) (context : Option String) :
    ∃ t, (fieldType table registry context c).result = .ok t := by
  induction c with
  | nil => exact ⟨_, rfl⟩
  | cons l rest ih =>
    cases l with
    | endless => exact absurd h not_wellTyped_endless
    | schema s =>
      obtain ⟨⟨href, htype⟩, hrest⟩ := wellTyped_schema.mp h
      refine Traced.returns_bind (returns_target? href) fun found _ => ?_
      cases found with
      | some t => exact ⟨t, rfl⟩
      | none =>
        dsimp only
        split
        · exact ⟨_, rfl⟩
        · refine Traced.returns_bind (returns_ofValue htype) fun node _ => ?_
          split
          · exact Traced.returns_bind (ih hrest) fun t _ => ⟨_, rfl⟩
          · exact ⟨node, rfl⟩

end Schema

namespace TwoPass

variable {table : TypeTable}

/-- The shape of a definition and of its properties; a property that is no object is read as an
empty schema. -/
structure DefinitionShape (definition : Value.Entries) : Prop where
  title : Schema.isTextOrNull (Value.fieldD "title" definition) = true
  required : falsyOr isTexts (Value.fieldD "required" definition) = true
  properties : falsyOr isTextMap (Value.fieldD "properties" definition) = true
  descriptions : ∀ kv ∈ schemaFields (Value.fieldD "properties" definition),
    Schema.isTextOrNull (Value.fieldD "description" (schemaFields kv.2)) = true
  schemas : ∀ kv ∈ schemaFields (Value.fieldD "properties" definition),
    Schema.WellTyped (Schema.chain (schemaFields kv.2))

instance (definition : Value.Entries) : Decidable (DefinitionShape definition) :=
  decidable_of_iff (_ ∧ _ ∧ _ ∧ _ ∧ _)
    ⟨fun h => ⟨h.1, h.2.1, h.2.2.1, h.2.2.2.1, h.2.2.2.2⟩,
      fun h => ⟨h.title, h.required, h.properties, h.descriptions, h.schemas⟩⟩

theorem isStr_of_textMap {v : Value} (h : falsyOr isTextMap v = true) :
    ∀ kv ∈ schemaFields v, kv.1.isStr = true := by
  intro kv hkv
  cases v with
  | map kvs =>
    rcases Shape.falsyOr_cases h with hfalsy | hkeys
    · have hempty : kvs = [] := by simpa [Value.truthy] using hfalsy
      rw [hempty] at hkv
      cases hkv
    · exact List.all_eq_true.mp hkeys kv hkv
  | _ => cases hkv

theorem returns_typeSource {schema : Value.Entries}
    (h : Schema.WellTyped (Schema.chain schema)) :
    ∃ source, typeSource table schema = .ok source := by
  refine returns_bind (Schema.returns_referenceTarget? h) fun found _ => ?_
  cases found with
  | some target => exact ⟨_, rfl⟩
  | none => exact returns_bind (Schema.returns_inlineType h) fun node _ => ⟨_, rfl⟩

theorem returns_propertyPlan {kv : Value × Value} (hkey : kv.1.isStr = true)
    (hdescription : Schema.isTextOrNull (Value.fieldD "description" (schemaFields kv.2)) = true)
    (hschema : Schema.WellTyped (Schema.chain (schemaFields kv.2))) (required : List Value) :
    ∃ p, propertyPlan table required kv = .ok p := by
  have haccept : Shape.accept (Shape.textAt "name" kv.1 ++ Shape.optionalTextAt "description"
      (Value.fieldD "description" (schemaFields kv.2))) = .ok () := by
    rw [Shape.textAt_of_text hkey, Shape.optionalTextAt_of_text hdescription]
    rfl
  refine returns_bind ⟨(), haccept⟩ fun _ _ => ?_
  exact returns_bind (returns_typeSource hschema) fun source _ => ⟨_, rfl⟩

theorem returns_modelPlan {d : Definition} (h : DefinitionShape d.fields) :
    ∃ m, modelPlan table d = .ok m := by
  have htitle : Shape.accept (Shape.optionalTextAt "title" (Value.fieldD "title" d.fields)) =
      .ok () := by
    rw [Shape.optionalTextAt_of_text h.title]
    rfl
  obtain ⟨ts, hts⟩ := Shape.orEmptyList_of_texts h.required
  have hrequired : Shape.members (Shape.orEmptyList (Value.fieldD "required" d.fields)) =
      .ok (ts.map .str) := by
    rw [hts, Shape.members_texts]
  have hproperties := Shape.entries_of_map
    (Shape.falsyOr_mono (fun _ => Shape.isMap_of_isTextMap) h.properties)
  refine returns_bind ⟨(), htitle⟩ fun _ _ => ?_
  refine returns_bind ⟨_, hrequired⟩ fun required _ => ?_
  refine returns_bind ⟨_, hproperties⟩ fun properties heq => ?_
  obtain rfl := Except.ok.inj (hproperties.symm.trans heq)
  refine returns_bind (returns_mapM fun kv hkv => ?_) fun plans _ => ⟨_, rfl⟩
  exact returns_propertyPlan (isStr_of_textMap h.properties kv hkv) (h.descriptions kv hkv)
    (h.schemas kv hkv) required

variable (table) in
theorem returns_definitions {kvs : Value.Entries} (hkeys : ∀ kv ∈ kvs, kv.1.isStr = true) :
    ∃ ds, definitions table kvs = .ok ds ∧ ∀ d ∈ ds, ∃ key, (key, .map d.fields) ∈ kvs := by
  rw [definitions_eq_mapM]
  have hentry : ∀ e ∈ kvs.filterMap object?, (e.1, .map e.2) ∈ kvs := by
    intro e he
    obtain ⟨⟨key, v⟩, hkv, hobject⟩ := List.mem_filterMap.mp he
    cases v with
    | map fields =>
      obtain rfl := Option.some.inj hobject
      exact hkv
    | _ => cases hobject
  have hreturns : ∀ e ∈ kvs.filterMap object?, ∃ d, definition table e.1 e.2 = .ok d := by
    intro e he
    have hkey := Shape.falsyOr_of (hkeys _ (hentry e he))
    exact returns_bind (Schema.returns_ofValue hkey) fun node _ => ⟨⟨e.1, node, e.2⟩, rfl⟩
  obtain ⟨ds, hds⟩ := returns_mapM hreturns
  refine ⟨ds, hds, ?_⟩
  intro d hd
  obtain ⟨e, he, hdefinition⟩ := exists_of_forall₂_of_mem (mapM_eq_ok.mp hds) hd
  obtain ⟨node, -, hdefinition⟩ := bind_eq_ok.mp hdefinition
  obtain rfl := pure_eq_ok.mp hdefinition
  exact ⟨e.1, hentry e he⟩

theorem returns_modelsOf {v : Value} (hmap : falsyOr isTextMap v = true)
    (h : ∀ kv ∈ schemaFields v, DefinitionShape (schemaFields kv.2)) :
    ∃ models, (modelsOf table (Shape.orEmptyMap v)).result = .ok models := by
  have hentries :=
    Shape.entries_of_map (Shape.falsyOr_mono (fun _ => Shape.isMap_of_isTextMap) hmap)
  rw [Shape.entries_orEmptyMap hentries]
  obtain ⟨ds, hds, hentry⟩ := returns_definitions table (isStr_of_textMap hmap)
  have hplans : ∃ ms, (firsts ds).mapM (modelPlan table) = .ok ms := by
    refine returns_mapM fun d hd => returns_modelPlan ?_
    obtain ⟨key, hkey⟩ := hentry d (List.mem_of_find?_eq_some (mem_firsts.mp hd))
    exact h _ hkey
  obtain ⟨ms, hms⟩ := hplans
  exact ⟨_, Traced.result_eq_ok.mpr ⟨_, modelsOf_eq_returned.mpr ⟨ds, ms, hds, hms, rfl, rfl⟩⟩⟩

end TwoPass

namespace Parameters

structure KeyShape (p : Value.Entries) : Prop where
  name : ∀ v ∈ Value.field "name" p, v.isStr = true
  location : ∀ v ∈ Value.field "in" p, v.hashable = true

instance (p : Value.Entries) : Decidable (KeyShape p) :=
  decidable_of_iff (_ ∧ _) ⟨fun h => ⟨h.1, h.2⟩, fun h => ⟨h.name, h.location⟩⟩

/-- The shape of a parameter that is typed: only its schema is read beside its key, and that only
if its location is known. -/
structure TypedShape (p : Value.Entries) : Prop where
  key : KeyShape p
  schema : (location? p).isSome → Schema.WellTyped (Schema.chain (schema p))

instance (p : Value.Entries) : Decidable (TypedShape p) :=
  decidable_of_iff (_ ∧ _) ⟨fun h => ⟨h.1, h.2⟩, fun h => ⟨h.key, h.schema⟩⟩

/-- The shape of a value in a list of parameters. What a reference stands for is shared. -/
structure ListedShape (v : Value) : Prop where
  key : KeyShape (schemaFields v)
  typed : sharedReference? (schemaFields v) = none → TypedShape (schemaFields v)

instance (v : Value) : Decidable (ListedShape v) :=
  decidable_of_iff (_ ∧ _) ⟨fun h => ⟨h.1, h.2⟩, fun h => ⟨h.key, h.typed⟩⟩

def ListShape : Value → Prop
  | .list xs => ∀ x ∈ xs, ListedShape x
  | v => v.truthy = false

instance (v : Value) : Decidable (ListShape v) := by
  unfold ListShape
  split <;> infer_instance

theorem typedShape_nil : TypedShape [] := by decide +kernel

theorem hashable_of_keyShape {p : Value.Entries} (h : KeyShape p) :
    (Key.ofEntries p).hashable = true := by
  unfold Key.hashable Key.ofEntries
  have hname : ((Value.field "name" p).getD (.str "")).hashable = true := by
    cases hfield : Value.field "name" p with
    | none => rfl
    | some v =>
      have htext := h.name v hfield
      cases v with
      | str s => rfl
      | _ => cases htext
  have hlocation : ((Value.field "in" p).getD (.str "")).hashable = true := by
    cases hfield : Value.field "in" p with
    | none => rfl
    | some v => exact h.location v hfield
  rw [hname, hlocation]
  rfl

/-- What a listed value stands for can be typed, also if it is a reference to nothing. -/
theorem returns_dereference {known : Value.Entries} {v : Value} (h : ListedShape v)
    (hshared : ∀ kv ∈ known, TypedShape (schemaFields kv.2)) :
    ∃ p, (dereference (.map known) v).result = .ok p ∧ TypedShape p := by
  cases v with
  | map kvs =>
    cases href : sharedReference? kvs with
    | none => exact ⟨kvs, by rw [dereference_of_plain href], h.typed href⟩
    | some found =>
      obtain ⟨ref, name⟩ := found
      have hmap : (Value.map known).isMap = true := rfl
      rw [dereference_of_reference href, if_pos hmap]
      cases hobject : sharedObject? (.map known) name with
      | none => exact ⟨[], rfl, typedShape_nil⟩
      | some target =>
        refine ⟨target, rfl, ?_⟩
        rw [sharedObject?_map, Value.fieldD] at hobject
        cases hfield : Value.field name known with
        | none =>
          rw [hfield] at hobject
          cases hobject
        | some w =>
          rw [hfield] at hobject
          obtain rfl : w = .map target := hobject
          exact hshared _ (Value.mem_of_field hfield)
  | _ => exact ⟨[], rfl, typedShape_nil⟩

theorem returns_merge {path operation : List Value.Entries}
    (h : ∀ p ∈ operation ++ path, KeyShape p) : ∃ merged, merge path operation = .ok merged := by
  refine ⟨mergeKeyed path operation, if_pos ?_⟩
  rw [List.all_eq_true]
  intro p hp
  rw [hashable_of_keyShape (h p hp), Bool.or_true]

theorem returns_extract {table : TypeTable} {p : Value.Entries} (h : TypedShape p)
    (registry : List String) (context : String) :
    ∃ found, (extract table registry context p).result = .ok found := by
  unfold extract
  split
  · exact ⟨none, rfl⟩
  · next location hlocation =>
    have hchain := h.schema (by rw [hlocation]; rfl)
    have hname : Shape.accept (Shape.textAt "name" ((Value.field "name" p).getD (.str ""))) =
        .ok () := by
      cases hfield : Value.field "name" p with
      | none => rfl
      | some v =>
        have htext := Shape.textAt_of_text (h.key.name v hfield) "name"
        rw [Option.getD_some, htext]
        rfl
    refine Traced.returns_bind (Schema.returns_fieldType hchain registry _) fun node _ => ?_
    exact Traced.returns_bind ⟨(), hname⟩ fun _ _ => ⟨_, rfl⟩

theorem returns_extractAll {table : TypeTable} {ps : List Value.Entries}
    (h : ∀ p ∈ ps, TypedShape p) (registry : List String) (context : String) :
    ∃ found, (extractAll table registry context ps).result = .ok found := by
  induction ps with
  | nil => exact ⟨_, rfl⟩
  | cons p ps ih =>
    obtain ⟨hp, hps⟩ := List.forall_mem_cons.mp h
    refine Traced.returns_bind (returns_extract hp registry context) fun first _ => ?_
    refine Traced.returns_bind (ih hps) fun rest _ => ?_
    cases first with
    | some found => exact ⟨_, rfl⟩
    | none => exact ⟨_, rfl⟩

end Parameters

end ClientCompiler
