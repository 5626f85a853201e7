import ClientCompiler.Proofs.Binding.Settling
import ClientCompiler.Proofs.Document.Plan

/-!
Registration said with plans. To register a definition is to plan it and to place the plan, and
placing can no longer fail; a whole registration places the plans of the definitions that are the
first of their names.
-/

namespace ClientCompiler.Registration

open TwoPass

variable {table : TypeTable}

def placeProperty (owner : String) (r : Registration) (p : PropertyPlan) :
    Registration × PropertyDraft :=
  let draft : PropertyDraft := ⟨p.name, p.required, p.description, r.types.length⟩
  match p.source with
  | .reference target =>
    let binding : PropertyBinding := ⟨r.types.length, owner, p.name, target⟩
    ({ r with
        types := r.types ++ ["any"]
        queue := ⟨r.queue.pending ++ [.once binding], false⟩ }, draft)
  | .inline node => ({ r with types := r.types ++ [node.text] }, draft)

def placeProperties (owner : String) (r : Registration) :
    List PropertyPlan → Registration × List PropertyDraft
  | [] => (r, [])
  | p :: ps =>
    let (r, d) := r.placeProperty owner p
    let (r, ds) := r.placeProperties owner ps
    (r, d :: ds)

def placeModel (r : Registration) (m : ModelPlan) : Registration :=
  let (r, ps) := r.placeProperties m.name m.properties
  { r with drafts := r.drafts ++ [⟨m.name, m.title, m.generics, ps⟩] }

def placeAll (r : Registration) (ms : List ModelPlan) : Registration := ms.foldl placeModel r

theorem placeProperty_frame (owner : String) (r : Registration) (p : PropertyPlan) :
    (r.placeProperty owner p).1.drafts = r.drafts ∧
      (r.queue.drained = false → (r.placeProperty owner p).1.queue.drained = false) := by
  unfold placeProperty
  cases p.source with
  | reference target => exact ⟨rfl, fun _ => rfl⟩
  | inline node => exact ⟨rfl, id⟩

theorem placeProperties_frame (owner : String) (r : Registration) (ps : List PropertyPlan) :
    (r.placeProperties owner ps).1.drafts = r.drafts ∧
      (r.queue.drained = false → (r.placeProperties owner ps).1.queue.drained = false) := by
  induction ps generalizing r with
  | nil => exact ⟨rfl, id⟩
  | cons p ps ih =>
    have hp := r.placeProperty_frame owner p
    have hps := ih (r.placeProperty owner p).1
    exact ⟨hps.1.trans hp.1, fun h => hps.2 (hp.2 h)⟩

theorem names_placeModel (r : Registration) (m : ModelPlan) :
    (r.placeModel m).names = r.names ++ [m.name] := by
  simp [placeModel, names, (r.placeProperties_frame m.name m.properties).1]

theorem names_placeAll (r : Registration) (ms : List ModelPlan) :
    (r.placeAll ms).names = r.names ++ ms.map (·.name) := by
  induction ms generalizing r with
  | nil => simp [placeAll]
  | cons m ms ih => simpa [placeAll, names_placeModel] using ih (r.placeModel m)

theorem open_placeModel (r : Registration) (m : ModelPlan) (h : r.queue.drained = false) :
    (r.placeModel m).queue.drained = false :=
  (r.placeProperties_frame m.name m.properties).2 h

theorem addProperty_eq_ok {owner : String} {required : List Value} {r : Registration}
    {name schema : Value} {x : Registration × PropertyDraft} (hopen : r.queue.drained = false) :
    addProperty table owner required r name schema = .ok x ↔
      ∃ p, propertyPlan table required (name, schema) = .ok p ∧ x = r.placeProperty owner p := by
  have hdefer : ∀ d, r.queue.defer? d = some ⟨r.queue.pending ++ [d], false⟩ := by
    intro d
    unfold BindingQueue.defer?
    rw [if_neg (by simp [hopen])]
  simp only [addProperty, propertyPlan, typeSource, hdefer, bind_eq_ok, pure_eq_ok]
  constructor
  · rintro ⟨u, haccept, target, htarget, h⟩
    cases target with
    | some target =>
      obtain rfl := pure_eq_ok.mp h
      exact ⟨_, ⟨u, haccept, _, ⟨_, htarget, rfl⟩, rfl⟩, rfl⟩
    | none =>
      obtain ⟨node, hnode, h⟩ := bind_eq_ok.mp h
      obtain rfl := pure_eq_ok.mp h
      exact ⟨_, ⟨u, haccept, _, ⟨_, htarget, bind_eq_ok.mpr ⟨node, hnode, rfl⟩⟩, rfl⟩, rfl⟩
  · rintro ⟨p, ⟨u, haccept, source, ⟨target, htarget, h⟩, rfl⟩, rfl⟩
    refine ⟨u, haccept, target, htarget, ?_⟩
    cases target with
    | some target =>
      obtain rfl := pure_eq_ok.mp h
      rfl
    | none =>
      obtain ⟨node, hnode, h⟩ := bind_eq_ok.mp h
      obtain rfl := pure_eq_ok.mp h
      exact bind_eq_ok.mpr ⟨node, hnode, rfl⟩

theorem addProperties_eq_ok {owner : String} {required : List Value} {r : Registration}
    {kvs : Value.Entries} {x : Registration × List PropertyDraft}
    (hopen : r.queue.drained = false) :
    addProperties table owner required r kvs = .ok x ↔
      ∃ ps, kvs.mapM (propertyPlan table required) = .ok ps ∧ x = r.placeProperties owner ps := by
  induction kvs generalizing r x with
  | nil =>
    constructor
    · intro h
      exact ⟨[], rfl, (Except.ok.inj h).symm⟩
    · rintro ⟨ps, hps, rfl⟩
      obtain rfl := mapM_nil_eq_ok.mp hps
      rfl
  | cons kv kvs ih =>
    simp only [addProperties, bind_eq_ok, pure_eq_ok, addProperty_eq_ok hopen, mapM_cons_eq_ok]
    constructor
    · rintro ⟨_, ⟨p, hp, rfl⟩, _, hrest, rfl⟩
      obtain ⟨ps, hps, rfl⟩ := (ih ((r.placeProperty_frame owner p).2 hopen)).mp hrest
      exact ⟨p :: ps, ⟨p, ps, hp, hps, rfl⟩, rfl⟩
    · rintro ⟨_, ⟨p, ps, hp, hps, rfl⟩, rfl⟩
      have hrest := (ih ((r.placeProperty_frame owner p).2 hopen)).mpr ⟨ps, hps, rfl⟩
      exact ⟨_, ⟨p, hp, rfl⟩, _, hrest, rfl⟩

theorem addModel_eq_ok {r r' : Registration} {d : Definition} (hopen : r.queue.drained = false) :
    addModel table r d.node d.fields = .ok r' ↔
      ∃ m, modelPlan table d = .ok m ∧ r' = r.placeModel m := by
  simp only [addModel, modelPlan, bind_eq_ok, pure_eq_ok, addProperties_eq_ok hopen]
  constructor
  · rintro ⟨u, haccept, required, hrequired, properties, hproperties, _, ⟨ps, hps, rfl⟩, rfl⟩
    exact ⟨_, ⟨u, haccept, required, hrequired, properties, hproperties, ps, hps, rfl⟩, rfl⟩
  · rintro ⟨_, ⟨u, haccept, required, hrequired, properties, hproperties, ps, hps, rfl⟩, rfl⟩
    exact ⟨u, haccept, required, hrequired, properties, hproperties, _, ⟨ps, hps, rfl⟩, rfl⟩

def skipped (d : Definition) : Diagnostic := .definitionSkipped d.key.textString d.name

/-- A definition is skipped if its name is taken; otherwise its plan is placed. -/
theorem addDefinition_eq_returned {key : Value} {fields : Value.Entries} {r r' : Registration}
    {log : List Diagnostic} (hopen : r.queue.drained = false) :
    addDefinition table r key (.map fields) = ⟨.ok r', log⟩ ↔
      ∃ d, definition table key fields = .ok d ∧
        (d.name ∈ r.names ∧ r' = r ∧ log = [skipped d] ∨
          d.name ∉ r.names ∧ ∃ m, modelPlan table d = .ok m ∧ r' = r.placeModel m ∧ log = []) := by
  cases hnode : TypeNode.ofValue table key with
  | error e => simp [addDefinition, definition, hnode, Traced.lift, Traced.bind]
  | ok node =>
    have hd : definition table key fields = .ok ⟨key, node, fields⟩ :=
      bind_eq_ok.mpr ⟨node, hnode, rfl⟩
    simp only [addDefinition, hnode, hd, Traced.bind_eq, Traced.lift_ok_bind, Except.ok.injEq,
      exists_eq_left']
    by_cases hname : node.name ∈ r.names
    · rw [if_pos (List.contains_iff_mem.mpr hname)]
      simp [hname, Traced.emit, Traced.bind, Traced.pure, skipped, Definition.name, eq_comm]
    · rw [if_neg (mt List.contains_iff_mem.mp hname), Traced.lift_eq_returned,
        addModel_eq_ok (d := ⟨key, node, fields⟩) hopen]
      constructor
      · rintro ⟨⟨m, hm, rfl⟩, rfl⟩
        exact Or.inr ⟨hname, m, hm, rfl, rfl⟩
      · rintro (⟨h, _⟩ | ⟨_, m, hm, rfl, rfl⟩)
        · exact absurd h hname
        · exact ⟨⟨m, hm, rfl⟩, rfl⟩

theorem addAll_other {key v : Value} (hv : ∀ fields, v ≠ .map fields) (r : Registration)
    (kvs : Value.Entries) : addAll table r ((key, v) :: kvs) = addAll table r kvs := by
  cases v with
  | map fields => exact absurd rfl (hv fields)
  | _ => rfl

theorem definitions_other {key v : Value} (hv : ∀ fields, v ≠ .map fields)
    (kvs : Value.Entries) : definitions table ((key, v) :: kvs) = definitions table kvs := by
  cases v with
  | map fields => exact absurd rfl (hv fields)
  | _ => rfl

/-- The names that are taken are those of the definitions met so far. -/
def Names (r : Registration) (earlier : List Definition) : Prop :=
  ∀ n, n ∈ r.names ↔ earlier.any (·.name == n) = true

theorem Names.taken {r : Registration} {earlier : List Definition} (h : r.Names earlier)
    {d : Definition} (hd : d.name ∈ r.names) : r.Names (earlier ++ [d]) := by
  intro n
  rw [any_name_append, Bool.or_eq_true, ← h n, beq_iff_eq]
  constructor
  · exact Or.inl
  · rintro (hn | rfl)
    · exact hn
    · exact hd

theorem Names.new {r : Registration} {earlier : List Definition} (h : r.Names earlier)
    {d : Definition} {m : ModelPlan} (hm : modelPlan table d = .ok m) :
    (r.placeModel m).Names (earlier ++ [d]) := by
  intro n
  rw [names_placeModel, any_name_append, List.mem_append, List.mem_singleton,
    name_of_modelPlan hm, Bool.or_eq_true, ← h n, beq_iff_eq, eq_comm (a := n)]

/-- A registration places the plans of the new definitions and reports the others. The induction
is on the entries; the names taken stay those of the definitions met. -/
theorem addAll_eq_returned {kvs : Value.Entries} {r r' : Registration} {log : List Diagnostic}
    {earlier : List Definition} (hnames : r.Names earlier) (hopen : r.queue.drained = false) :
    addAll table r kvs = ⟨.ok r', log⟩ ↔
      ∃ ds ms, definitions table kvs = .ok ds ∧
        (newAfter earlier ds).mapM (modelPlan table) = .ok ms ∧
        r' = r.placeAll ms ∧ log = (shadowedAfter earlier ds).map skipped := by
  induction kvs generalizing r log earlier with
  | nil =>
    constructor
    · intro h
      obtain ⟨rfl, rfl⟩ := Traced.pure_eq_returned.mp h
      exact ⟨[], [], rfl, rfl, rfl, rfl⟩
    · rintro ⟨ds, ms, hds, hms, rfl, rfl⟩
      obtain rfl : [] = ds := Except.ok.inj hds
      obtain rfl := mapM_nil_eq_ok.mp hms
      rfl
  | cons kv kvs ih =>
    obtain ⟨key, v⟩ := kv
    by_cases hv : ∃ fields, v = .map fields
    · obtain ⟨fields, rfl⟩ := hv
      simp only [addAll, definitions, Traced.bind_eq, Traced.bind_eq_returned, bind_eq_ok,
        pure_eq_ok, addDefinition_eq_returned hopen]
      constructor
      · rintro ⟨_, _, l, ⟨d, hd, ⟨hname, rfl, rfl⟩ | ⟨hname, m, hm, rfl, rfl⟩⟩, hrest, rfl⟩
        · obtain ⟨ds, ms, hds, hms, rfl, rfl⟩ := (ih (hnames.taken hname) hopen).mp hrest
          obtain ⟨hnew, hshadowed⟩ := after_met ((hnames d.name).mp hname) ds
          refine ⟨d :: ds, ms, ⟨d, hd, ds, hds, rfl⟩, ?_, rfl, ?_⟩
          · rw [hnew, hms]
          · rw [hshadowed]
            rfl
        · have hgrown := hnames.new hm
          obtain ⟨ds, ms, hds, hms, rfl, rfl⟩ := (ih hgrown (r.open_placeModel m hopen)).mp hrest
          obtain ⟨hnew, hshadowed⟩ := after_unmet (mt (hnames d.name).mpr hname) ds
          refine ⟨d :: ds, m :: ms, ⟨d, hd, ds, hds, rfl⟩, ?_, rfl, ?_⟩
          · rw [hnew]
            exact mapM_cons_eq_ok.mpr ⟨m, ms, hm, hms, rfl⟩
          · rw [hshadowed]
      · rintro ⟨_, ms, ⟨d, hd, ds, hds, rfl⟩, hms, rfl, rfl⟩
        by_cases hname : d.name ∈ r.names
        · obtain ⟨hnew, hshadowed⟩ := after_met ((hnames d.name).mp hname) ds
          rw [hnew] at hms
          rw [hshadowed]
          have hrest := (ih (hnames.taken hname) hopen).mpr ⟨ds, ms, hds, hms, rfl, rfl⟩
          exact ⟨r, _, _, ⟨d, hd, Or.inl ⟨hname, rfl, rfl⟩⟩, hrest, rfl⟩
        · obtain ⟨hnew, hshadowed⟩ := after_unmet (mt (hnames d.name).mpr hname) ds
          rw [hnew] at hms
          rw [hshadowed]
          obtain ⟨m, rest, hm, hrest, rfl⟩ := mapM_cons_eq_ok.mp hms
          have hgrown := hnames.new hm
          have hrest := (ih hgrown (r.open_placeModel m hopen)).mpr
            ⟨ds, rest, hds, hrest, rfl, rfl⟩
          exact ⟨_, _, _, ⟨d, hd, Or.inr ⟨hname, m, hm, rfl, rfl⟩⟩, hrest, rfl⟩
    · have hother : ∀ fields, v ≠ .map fields := fun fields h => hv ⟨fields, h⟩
      rw [addAll_other hother, definitions_other hother]
      exact ih hnames hopen

end ClientCompiler.Registration
