import ClientCompiler.Proofs.Document.DeclarationOrder

/-!
The properties of a map of definitions. Each has its place: the name of its model, and where it
stands in the first object of that name. The model has its type at the same place, and every warning
is about the property at some place.
-/

namespace ClientCompiler.TwoPass

variable {table : TypeTable} {kvs : Value.Entries}

/-- The property, with its key and its schema, at a place in the model of a name. -/
def PropertyAt (table : TypeTable) (kvs : Value.Entries) (owner : String) (i : Nat)
    (property : Value × Value) : Prop :=
  ∃ key fields properties,
    kvs.find? (fun entry => declaredName? table entry == some owner) = some (key, .map fields) ∧
      Shape.entries (Shape.orEmptyMap (Value.fieldD "properties" fields)) = .ok properties ∧
      properties[i]? = some property

theorem PropertyAt.unique {owner : String} {i : Nat} {p q : Value × Value}
    (hp : PropertyAt table kvs owner i p) (hq : PropertyAt table kvs owner i q) : p = q := by
  obtain ⟨key, fields, properties, hfind, hentries, hi⟩ := hp
  obtain ⟨key', fields', properties', hfind', hentries', hi'⟩ := hq
  rw [hfind] at hfind'
  cases hfind'
  rw [hentries] at hentries'
  cases hentries'
  rw [hi] at hi'
  exact Option.some.inj hi'

theorem find_definition {ds : List Definition} (hds : definitions table kvs = .ok ds) (n : String)
    (key : Value) (fields : Value.Entries) :
    kvs.find? (fun entry => declaredName? table entry == some n) = some (key, .map fields) ↔
      ∃ d, ds.find? (·.name == n) = some d ∧ d.key = key ∧ d.fields = fields := by
  have hread := definitions_declarations n hds
  rw [← List.head?_filter, ← List.head?_filter]
  unfold declarations at hread
  cases hdecl : kvs.filter fun entry => declaredName? table entry == some n with
  | nil =>
    rw [hdecl] at hread
    rw [← Except.ok.inj hread]
    simp
  | cons entry rest =>
    have hname : declaredName? table entry = some n := by
      have hmem : entry ∈ kvs.filter fun entry => declaredName? table entry == some n := by
        rw [hdecl]
        exact List.mem_cons_self
      simpa using (List.mem_filter.mp hmem).2
    rw [hdecl] at hread
    obtain ⟨k, v⟩ := entry
    cases v with
    | map fs =>
      simp only [definitions, bind_eq_ok, pure_eq_ok] at hread
      obtain ⟨d, hd, ds', _, hcons⟩ := hread
      obtain ⟨node, _, hd⟩ := bind_eq_ok.mp hd
      obtain rfl := pure_eq_ok.mp hd
      rw [← hcons]
      simp
    | _ => simp [declaredName?] at hname

theorem mem_firsts {ds : List Definition} {d : Definition} :
    d ∈ firsts ds ↔ ds.find? (·.name == d.name) = some d := by
  unfold firsts
  rw [List.mem_filterMap]
  constructor
  · rintro ⟨n, _, hfind⟩
    obtain rfl : d.name = n := by simpa using List.find?_some hfind
    exact hfind
  · intro hfind
    refine ⟨d.name, List.mem_eraseDups.mpr (List.mem_map.mpr ⟨d, ?_, rfl⟩), hfind⟩
    exact List.mem_of_find?_eq_some hfind

theorem properties_of_modelPlan {d : Definition} {m : ModelPlan} (h : modelPlan table d = .ok m) :
    ∃ required properties,
      Shape.entries (Shape.orEmptyMap (Value.fieldD "properties" d.fields)) = .ok properties ∧
        properties.mapM (propertyPlan table required) = .ok m.properties := by
  simp only [modelPlan, bind_eq_ok, pure_eq_ok] at h
  obtain ⟨_, _, required, _, properties, hproperties, plans, hplans, rfl⟩ := h
  exact ⟨required, properties, hproperties, hplans⟩

theorem source_of_propertyPlan {required : List Value} {property : Value × Value}
    {p : PropertyPlan} (h : propertyPlan table required property = .ok p) :
    p.name = Shape.textD property.1 ∧
      typeSource table (schemaFields property.2) = .ok p.source := by
  simp only [propertyPlan, bind_eq_ok, pure_eq_ok] at h
  obtain ⟨_, _, source, hsource, rfl⟩ := h
  exact ⟨rfl, hsource⟩

theorem missing?_eq_some {registered : List String} {source : TypeSource} {name : String} :
    source.missing? registered = some name ↔
      ∃ target, source = .reference target ∧ target.innermost.name ∉ registered ∧
        target.innermost.name = name := by
  cases source with
  | inline node => simp [TypeSource.missing?]
  | reference target => by_cases h : target.innermost.name ∈ registered <;>
      simp [TypeSource.missing?, h]

section Plans

variable {ds : List Definition} {ms : List ModelPlan}

theorem plan_of_property (hds : definitions table kvs = .ok ds)
    (hms : (firsts ds).mapM (modelPlan table) = .ok ms) {owner : String} {i : Nat}
    {property : Value × Value} (h : PropertyAt table kvs owner i property) :
    ∃ m ∈ ms, m.name = owner ∧ ∃ p, m.properties[i]? = some p ∧
      p.name = Shape.textD property.1 ∧
      typeSource table (schemaFields property.2) = .ok p.source := by
  obtain ⟨key, fields, properties, hfind, hentries, hi⟩ := h
  obtain ⟨d, hfirst, _, rfl⟩ := (find_definition hds owner key fields).mp hfind
  obtain rfl : d.name = owner := by simpa using List.find?_some hfirst
  obtain ⟨j, hj⟩ := List.mem_iff_getElem?.mp (mem_firsts.mpr hfirst)
  obtain ⟨m, hm, hplan⟩ := returned_at hms hj
  obtain ⟨required, properties', hentries', hplans⟩ := properties_of_modelPlan hplan
  rw [hentries] at hentries'
  cases hentries'
  obtain ⟨p, hp, hproperty⟩ := returned_at hplans hi
  obtain ⟨hname, hsource⟩ := source_of_propertyPlan hproperty
  exact ⟨m, List.mem_iff_getElem?.mpr ⟨j, hm⟩, name_of_modelPlan hplan, p, hp, hname, hsource⟩

theorem property_of_plan (hds : definitions table kvs = .ok ds)
    (hms : (firsts ds).mapM (modelPlan table) = .ok ms) {m : ModelPlan} (hm : m ∈ ms)
    {p : PropertyPlan} (hp : p ∈ m.properties) :
    ∃ i property, PropertyAt table kvs m.name i property ∧ p.name = Shape.textD property.1 ∧
      typeSource table (schemaFields property.2) = .ok p.source := by
  obtain ⟨j, hj⟩ := List.mem_iff_getElem?.mp hm
  obtain ⟨d, hd, hplan⟩ := returned_from hms hj
  obtain ⟨required, properties, hentries, hplans⟩ := properties_of_modelPlan hplan
  obtain ⟨i, hi⟩ := List.mem_iff_getElem?.mp hp
  obtain ⟨property, hproperty, hpart⟩ := returned_from hplans hi
  have hfirst := mem_firsts.mp (List.mem_iff_getElem?.mpr ⟨j, hd⟩)
  have hfind := (find_definition hds d.name d.key d.fields).mpr ⟨d, hfirst, rfl, rfl⟩
  rw [name_of_modelPlan hplan]
  exact ⟨i, property, ⟨_, _, _, hfind, hentries, hproperty⟩, source_of_propertyPlan hpart⟩

end Plans

section Run

variable {models : List Model} {log : List Diagnostic}

/-- A property is in the model of its owner, at its place, with the type that its schema gets once
all models are known. -/
theorem type_of_property (hrun : modelsOf table (.map kvs) = ⟨.ok models, log⟩) {owner : String}
    {i : Nat} {property : Value × Value} (h : PropertyAt table kvs owner i property) :
    ∃ source, typeSource table (schemaFields property.2) = .ok source ∧
      ∃ m ∈ models, m.name = owner ∧ ∃ p, m.properties[i]? = some p ∧
        p.name = Shape.textD property.1 ∧ p.type = source.type (models.map (·.name)) := by
  obtain ⟨ds, ms, hds, hms, rfl, rfl⟩ := modelsOf_eq_returned.mp hrun
  obtain ⟨m, hm, howner, p, hp, hname, hsource⟩ := plan_of_property hds hms h
  refine ⟨p.source, hsource, m.model (names ds), List.mem_map_of_mem hm, howner,
    p.property (names ds), ?_, hname, by rw [name_of_models hms]; rfl⟩
  simp only [ModelPlan.model, List.getElem?_map, hp, Option.map_some]

theorem property_of_model (hrun : modelsOf table (.map kvs) = ⟨.ok models, log⟩) {m : Model}
    (hm : m ∈ models) {p : Property} (hp : p ∈ m.properties) :
    ∃ i property, PropertyAt table kvs m.name i property ∧
      ∃ source, typeSource table (schemaFields property.2) = .ok source ∧
        p.type = source.type (models.map (·.name)) := by
  obtain ⟨ds, ms, hds, hms, rfl, rfl⟩ := modelsOf_eq_returned.mp hrun
  obtain ⟨plan, hplan, rfl⟩ := List.mem_map.mp hm
  obtain ⟨part, hpart, rfl⟩ := List.mem_map.mp hp
  obtain ⟨i, property, hplace, -, hsource⟩ := property_of_plan hds hms hplan hpart
  exact ⟨i, property, hplace, part.source, hsource, by rw [name_of_models hms]; rfl⟩

theorem warning_of_property (hrun : modelsOf table (.map kvs) = ⟨.ok models, log⟩)
    {owner : String} {i : Nat} {property : Value × Value}
    (h : PropertyAt table kvs owner i property) {target : TypeNode}
    (htarget : typeSource table (schemaFields property.2) = .ok (.reference target))
    (hunknown : target.innermost.name ∉ models.map (·.name)) :
    .unresolved target.innermost.name (some (owner ++ "." ++ Shape.textD property.1)) ∈ log := by
  obtain ⟨ds, ms, hds, hms, rfl, rfl⟩ := modelsOf_eq_returned.mp hrun
  obtain ⟨m, hm, rfl, p, hp, hname, hsource⟩ := plan_of_property hds hms h
  rw [name_of_models hms] at hunknown
  obtain hsource : p.source = .reference target := Except.ok.inj (hsource.symm.trans htarget)
  have hmissing : p.source.missing? (names ds) = some target.innermost.name := by
    rw [hsource]
    exact if_neg hunknown
  refine List.mem_append_right _ (List.mem_append_left _ (List.mem_flatMap.mpr ⟨m, hm, ?_⟩))
  refine List.mem_filterMap.mpr ⟨p, List.mem_of_getElem? hp, ?_⟩
  rw [Registration.missing?, hmissing, hname]
  rfl

theorem property_of_warning (hrun : modelsOf table (.map kvs) = ⟨.ok models, log⟩)
    {d : Diagnostic} (hd : d ∈ log) (hwarning : d.level = .warning) :
    ∃ owner i property target, PropertyAt table kvs owner i property ∧
      typeSource table (schemaFields property.2) = .ok (.reference target) ∧
      target.innermost.name ∉ models.map (·.name) ∧
      d = .unresolved target.innermost.name (some (owner ++ "." ++ Shape.textD property.1)) := by
  obtain ⟨ds, ms, hds, hms, rfl, rfl⟩ := modelsOf_eq_returned.mp hrun
  have hmissing : d ∈ ms.flatMap (Registration.missing (names ds)) := by
    rw [← warnings_of_log ds ms (names ds) (names ds).length (countReferences ms)]
    exact List.mem_filter.mpr ⟨hd, by simp [isWarning, hwarning]⟩
  obtain ⟨m, hm, hd⟩ := List.mem_flatMap.mp hmissing
  obtain ⟨p, hp, hd⟩ := List.mem_filterMap.mp hd
  obtain ⟨name, hname, rfl⟩ := Option.map_eq_some_iff.mp hd
  obtain ⟨target, htarget, hunknown, rfl⟩ := missing?_eq_some.mp hname
  obtain ⟨i, property, hplace, hpname, hsource⟩ := property_of_plan hds hms hm hp
  refine ⟨m.name, i, property, target, hplace, by rw [hsource, htarget], ?_, by rw [hpname]⟩
  rw [name_of_models hms]
  exact hunknown

end Run
end ClientCompiler.TwoPass
