import ClientCompiler.Proofs.Distinct
import ClientCompiler.Proofs.Document.TwoPass

/-!
The order of declarations. Definitions of one name have to keep their order, since the first of them
is the model; apart from that the entries of a map may be given in any order, and the same models
are made with the same warnings.
-/

namespace ClientCompiler.TwoPass

variable {table : TypeTable}

/-- The name under which an entry is registered, if it is an object. -/
def declaredName? (table : TypeTable) (entry : Value × Value) : Option String :=
  match entry.2 with
  | .map _ => (TypeNode.ofValue table entry.1).toOption.map (·.name)
  | _ => none

def declarations (table : TypeTable) (kvs : Value.Entries) (n : String) : Value.Entries :=
  kvs.filter fun entry => declaredName? table entry == some n

/-- The same entries in an order that keeps the order of the objects of each name. -/
structure Reordered (table : TypeTable) (kvs kvs' : Value.Entries) : Prop where
  perm : kvs.Perm kvs'
  keeps : ∀ n, declarations table kvs n = declarations table kvs' n

def object? (entry : Value × Value) : Option (Value × Value.Entries) :=
  match entry.2 with
  | .map fields => some (entry.1, fields)
  | _ => none

theorem definitions_eq_mapM (kvs : Value.Entries) :
    definitions table kvs = (kvs.filterMap object?).mapM fun e => definition table e.1 e.2 := by
  induction kvs with
  | nil => rfl
  | cons kv kvs ih =>
    obtain ⟨key, v⟩ := kv
    cases v with
    | map fields =>
      have hobject : object? (key, .map fields) = some (key, fields) := rfl
      rw [definitions, List.filterMap_cons_some hobject, List.mapM_cons, ih]
    | _ => exact ih

theorem definitions_perm {kvs kvs' : Value.Entries} {ds : List Definition}
    (h : kvs.Perm kvs') (hds : definitions table kvs = .ok ds) :
    ∃ ds', definitions table kvs' = .ok ds' ∧ ds.Perm ds' := by
  rw [definitions_eq_mapM] at hds
  obtain ⟨ds', hds', hperm⟩ := mapM_perm (h.filterMap object?) hds
  exact ⟨ds', by rw [definitions_eq_mapM, hds'], hperm⟩

theorem declaredName?_of_definition {key : Value} {fields : Value.Entries} {d : Definition}
    (h : definition table key fields = .ok d) :
    declaredName? table (key, .map fields) = some d.name := by
  obtain ⟨node, hnode, hd⟩ := bind_eq_ok.mp h
  obtain rfl := pure_eq_ok.mp hd
  simp [declaredName?, hnode, Except.toOption, Definition.name]

theorem definitions_declarations {kvs : Value.Entries} {ds : List Definition} (n : String)
    (h : definitions table kvs = .ok ds) :
    definitions table (declarations table kvs n) = .ok (ds.filter (·.name == n)) := by
  induction kvs generalizing ds with
  | nil =>
    obtain rfl := Except.ok.inj h
    rfl
  | cons kv kvs ih =>
    obtain ⟨key, v⟩ := kv
    by_cases hv : ∃ fields, v = .map fields
    · obtain ⟨fields, rfl⟩ := hv
      simp only [definitions, bind_eq_ok, pure_eq_ok] at h
      obtain ⟨d, hd, rest, hrest, rfl⟩ := h
      have hname := declaredName?_of_definition hd
      unfold declarations
      by_cases hn : d.name = n
      · rw [List.filter_cons_of_pos (by simp [hname, hn]), List.filter_cons_of_pos (by simp [hn])]
        exact bind_eq_ok.mpr ⟨d, hd, bind_eq_ok.mpr ⟨_, ih hrest, rfl⟩⟩
      · rw [List.filter_cons_of_neg (by simp [hname, hn]), List.filter_cons_of_neg (by simp [hn])]
        exact ih hrest
    · have hother : ∀ fields, v ≠ .map fields := fun fields e => hv ⟨fields, e⟩
      have hnone : declaredName? table (key, v) = none := by
        cases v with
        | map fields => exact absurd rfl (hother fields)
        | _ => rfl
      rw [Registration.definitions_other hother] at h
      unfold declarations
      rw [List.filter_cons_of_neg (by simp [hnone])]
      exact ih h

/-- The two readings of a map in two orders: the same definitions, and the same first one of each
name. -/
theorem Reordered.definitions {kvs kvs' : Value.Entries} {ds : List Definition}
    (h : Reordered table kvs kvs') (hds : definitions table kvs = .ok ds) :
    ∃ ds', definitions table kvs' = .ok ds' ∧ ds.Perm ds' ∧
      ∀ n, ds.find? (·.name == n) = ds'.find? (·.name == n) := by
  obtain ⟨ds', hds', hperm⟩ := definitions_perm h.perm hds
  refine ⟨ds', hds', hperm, fun n => ?_⟩
  have hread := definitions_declarations n hds
  have hread' := definitions_declarations n hds'
  rw [h.keeps n, hread'] at hread
  rw [← List.head?_filter, ← List.head?_filter, Except.ok.inj hread]

theorem names_perm {ds ds' : List Definition} (h : ds.Perm ds') : (names ds).Perm (names ds') :=
  eraseDups_perm (h.map _)

theorem nodup_names (ds : List Definition) : (names ds).Nodup := nodup_eraseDups _

theorem firsts_perm {ds ds' : List Definition} (h : ds.Perm ds')
    (hfirst : ∀ n, ds.find? (·.name == n) = ds'.find? (·.name == n)) :
    (firsts ds).Perm (firsts ds') := by
  unfold firsts
  rw [funext hfirst]
  exact (names_perm h).filterMap _

section Registered

variable {registered registered' : List String} (h : ∀ n, n ∈ registered ↔ n ∈ registered')

include h

/-- A type depends on which names are registered, not on where they stand. -/
theorem type_congr (s : TypeSource) : s.type registered = s.type registered' := by
  cases s with
  | reference target => simp only [TypeSource.type, h]
  | inline node => rfl

theorem model_congr (m : ModelPlan) : m.model registered = m.model registered' := by
  unfold ModelPlan.model PropertyPlan.property
  simp only [type_congr h]

theorem missing_congr (m : ModelPlan) :
    Registration.missing registered m = Registration.missing registered' m := by
  have hmissing : ∀ s : TypeSource, s.missing? registered = s.missing? registered' := by
    intro s
    cases s with
    | reference target => simp only [TypeSource.missing?, h]
    | inline node => rfl
  unfold Registration.missing Registration.missing?
  simp only [hmissing]

end Registered

def isWarning (d : Diagnostic) : Bool := d.level == .warning

theorem isWarning_of_mem_missing {registered : List String} {m : ModelPlan} {d : Diagnostic}
    (h : d ∈ Registration.missing registered m) : isWarning d = true := by
  obtain ⟨p, _, hp⟩ := List.mem_filterMap.mp h
  obtain ⟨name, _, rfl⟩ := Option.map_eq_some_iff.mp hp
  rfl

theorem warnings_of_log (ds : List Definition) (ms : List ModelPlan) (registered : List String)
    (models references : Nat) :
    ((shadowedAfter [] ds).map Registration.skipped ++
      (ms.flatMap (Registration.missing registered) ++
        [Diagnostic.modelsRegistered models references])).filter isWarning =
      ms.flatMap (Registration.missing registered) := by
  have hskipped : ((shadowedAfter [] ds).map Registration.skipped).filter isWarning = [] := by
    rw [List.filter_eq_nil_iff]
    intro d hd
    obtain ⟨e, _, rfl⟩ := List.mem_map.mp hd
    exact Bool.false_ne_true
  have hmissing : (ms.flatMap (Registration.missing registered)).filter isWarning =
      ms.flatMap (Registration.missing registered) := by
    rw [List.filter_eq_self]
    intro d hd
    obtain ⟨m, _, hm⟩ := List.mem_flatMap.mp hd
    exact isWarning_of_mem_missing hm
  have hcount : [Diagnostic.modelsRegistered models references].filter isWarning = [] := rfl
  rw [List.filter_append, List.filter_append, hskipped, hmissing, hcount, List.append_nil,
    List.nil_append]

theorem find_model_of_perm {models models' : List Model} (h : models.Perm models')
    (hnodup : (models.map (·.name)).Nodup) (n : String) :
    models.find? (·.name == n) = models'.find? (·.name == n) := by
  have hsingle : (models.filter (·.name == n)).length ≤ 1 := by
    have hcount := List.nodup_iff_count.mp hnodup n
    rwa [List.count_eq_countP, List.countP_map, List.countP_eq_length_filter] at hcount
  rw [← List.head?_filter, ← List.head?_filter,
    eq_of_perm_of_length_le_one (h.filter (·.name == n)) hsingle]

/-- A map that gives models gives them in every order of its entries that keeps the order of the
objects of each name: the same model under every name, in an order of their own, and the same
warnings as often. -/
theorem modelsOf_reordered (table : TypeTable) {kvs kvs' : Value.Entries} {models : List Model}
    {log : List Diagnostic} (h : Reordered table kvs kvs')
    (hrun : modelsOf table (.map kvs) = ⟨.ok models, log⟩) :
    ∃ models' log', modelsOf table (.map kvs') = ⟨.ok models', log'⟩ ∧
      (∀ n, models.find? (·.name == n) = models'.find? (·.name == n)) ∧
      models.Perm models' ∧
      (log.filter (·.level == .warning)).Perm (log'.filter (·.level == .warning)) := by
  obtain ⟨ds, ms, hds, hms, rfl, rfl⟩ := modelsOf_eq_returned.mp hrun
  obtain ⟨ds', hds', hperm, hfirst⟩ := h.definitions hds
  obtain ⟨ms', hms', hplans⟩ := mapM_perm (firsts_perm hperm hfirst) hms
  have hregistered : ∀ n, n ∈ names ds ↔ n ∈ names ds' := fun n => (names_perm hperm).mem_iff
  have hmodels : (ms.map (·.model (names ds))).Perm (ms'.map (·.model (names ds'))) := by
    rw [List.map_congr_left fun m _ => model_congr hregistered m]
    exact hplans.map _
  have hnodup : ((ms.map (·.model (names ds))).map (·.name)).Nodup := by
    rw [List.map_map, show ms.map ((·.name) ∘ (·.model (names ds))) = ms.map (·.name) from rfl,
      name_of_plans hms]
    exact nodup_names ds
  have hwarnings : (ms.flatMap (Registration.missing (names ds))).Perm
      (ms'.flatMap (Registration.missing (names ds'))) := by
    rw [funext (missing_congr hregistered)]
    exact hplans.flatMap_right _
  refine ⟨_, _, modelsOf_eq_returned.mpr ⟨ds', ms', hds', hms', rfl, rfl⟩,
    find_model_of_perm hmodels hnodup, hmodels, ?_⟩
  have hlog := warnings_of_log ds ms (names ds) (names ds).length (countReferences ms)
  have hlog' := warnings_of_log ds' ms' (names ds') (names ds').length (countReferences ms')
  unfold isWarning at hlog hlog'
  rw [hlog, hlog']
  exact hwarnings

/-- Two pages of one name, of which the first refers to a model after it, and a model that refers to
nothing known: the model may as well come first. -/
theorem modelsOf_reordered_pages :
    let reference (name : String) : Value := .map [(.str "$ref", .str ("#/definitions/" ++ name))]
    let object (property : String) (schema : Value) : Value :=
      .map [(.str "properties", .map [(.str property, schema)])]
    let pets : Value × Value := (.str "Page«Pet»", object "first" (reference "Pet"))
    let pet : Value × Value := (.str "Pet", object "owner" (reference "Person"))
    let orders : Value × Value := (.str "Page«Order»", .map [])
    let models : List Model :=
      [⟨"Page", none, ["Pet"], [⟨"first", "Pet", false, none⟩]⟩,
        ⟨"Pet", none, [], [⟨"owner", "any", false, none⟩]⟩]
    let log : List Diagnostic := [.definitionSkipped "Page«Order»" "Page",
      .unresolved "Person" (some "Pet.owner"), .modelsRegistered 2 2]
    Reordered .typeScript [pets, pet, orders] [pet, pets, orders] ∧
      modelsOf .typeScript (.map [pets, pet, orders]) = ⟨.ok models, log⟩ ∧
      ∃ models' log', modelsOf .typeScript (.map [pet, pets, orders]) = ⟨.ok models', log'⟩ ∧
        (∀ n, models.find? (·.name == n) = models'.find? (·.name == n)) ∧
        models.Perm models' ∧
        (log.filter (·.level == .warning)).Perm (log'.filter (·.level == .warning)) := by
  intro reference object pets pet orders models log
  have hrun : modelsOf .typeScript (.map [pets, pet, orders]) = ⟨.ok models, log⟩ := by
    decide +kernel
  have hpets : declaredName? .typeScript pets = some "Page" := by decide +kernel
  have hpet : declaredName? .typeScript pet = some "Pet" := by decide +kernel
  have horders : declaredName? .typeScript orders = some "Page" := by decide +kernel
  have hreordered : Reordered .typeScript [pets, pet, orders] [pet, pets, orders] := by
    refine ⟨.swap _ _ _, fun n => ?_⟩
    simp only [declarations, List.filter_cons, hpets, hpet, horders]
    by_cases hn : n = "Pet"
    · subst hn
      rfl
    · have hother : (some "Pet" == some n) = false := by simpa using Ne.symm hn
      rw [hother]
      rfl
  exact ⟨hreordered, hrun, modelsOf_reordered _ hreordered hrun⟩

end ClientCompiler.TwoPass
