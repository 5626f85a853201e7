import ClientCompiler.Proofs.Document.Placement

/-!
Queued bindings against two passes. A registration is looked at as if its bindings ran now, with
all names known; then each placed property adds its final type, and each placed model itself. A
drain runs the bindings with the names that are registered in the end, so that the models are those
of the two passes.
-/

namespace ClientCompiler.Registration

open TwoPass

structure Sound (r : Registration) : Prop where
  opened : r.queue.drained = false
  plain : ∀ d ∈ r.queue.pending, d.Plain
  bound : ∀ d ∈ r.queue.pending, d.action.slot < r.types.length
  drafted : ∀ d ∈ r.drafts, ∀ p ∈ d.properties, p.slot < r.types.length

def bindings (r : Registration) : List PropertyBinding := r.queue.pending.map (·.action)

/-- The types, and what is reported, if the bindings that wait ran now. -/
def settled (registry : List String) (r : Registration) : List String × List Diagnostic :=
  runBindings registry r.types r.bindings

def missing? (registry : List String) (owner : String) (p : PropertyPlan) : Option Diagnostic :=
  (p.source.missing? registry).map fun name => .unresolved name (some (owner ++ "." ++ p.name))

def missing (registry : List String) (m : ModelPlan) : List Diagnostic :=
  m.properties.filterMap (missing? registry m.name)

def draftsFrom (slot : Nat) : List PropertyPlan → List PropertyDraft
  | [] => []
  | p :: ps => ⟨p.name, p.required, p.description, slot⟩ :: draftsFrom (slot + 1) ps

def readDraft (types : List String) (d : PropertyDraft) : Property :=
  ⟨d.name, (types[d.slot]?).getD "any", d.required, d.description⟩

theorem models_eq (r : Registration) (types : List String) :
    r.models types =
      r.drafts.map fun d => ⟨d.name, d.title, d.generics, d.properties.map (readDraft types)⟩ :=
  rfl

section Properties

variable (registry : List String) (owner : String) {r : Registration}

theorem length_settled (r : Registration) : (settled registry r).1.length = r.types.length :=
  length_runBindings registry r.types r.bindings

theorem Sound.bindings_bound (h : r.Sound) : ∀ b ∈ r.bindings, b.slot < r.types.length := by
  intro b hb
  obtain ⟨d, hd, rfl⟩ := List.mem_map.mp hb
  exact h.bound d hd

theorem length_types_placeProperty (p : PropertyPlan) :
    (r.placeProperty owner p).1.types.length = r.types.length + 1 := by
  unfold placeProperty
  cases p.source with
  | reference target => exact List.length_append
  | inline node => exact List.length_append

theorem sound_placeProperty (h : r.Sound) (p : PropertyPlan) :
    (r.placeProperty owner p).1.Sound := by
  have hlength := length_types_placeProperty owner (r := r) p
  have hframe := r.placeProperty_frame owner p
  refine ⟨hframe.2 h.opened, ?_, ?_, ?_⟩
  · unfold placeProperty
    cases p.source with
    | reference target =>
      intro d hd
      rcases List.mem_append.mp hd with hd | hd
      · exact h.plain d hd
      · obtain rfl := List.mem_singleton.mp hd
        exact ⟨rfl, rfl⟩
    | inline node => exact h.plain
  · rw [hlength]
    unfold placeProperty
    cases p.source with
    | reference target =>
      intro d hd
      rcases List.mem_append.mp hd with hd | hd
      · exact Nat.lt_succ_of_lt (h.bound d hd)
      · obtain rfl := List.mem_singleton.mp hd
        exact Nat.lt_succ_self _
    | inline node =>
      intro d hd
      exact Nat.lt_succ_of_lt (h.bound d hd)
  · rw [hlength, hframe.1]
    intro d hd q hq
    exact Nat.lt_succ_of_lt (h.drafted d hd q hq)

/-- A property adds its final type and its report: its slot is new, so that no binding that waited
before writes to it. -/
theorem settled_placeProperty (h : r.Sound) (p : PropertyPlan) :
    settled registry (r.placeProperty owner p).1 =
      ((settled registry r).1 ++ [p.source.type registry],
        (settled registry r).2 ++ (missing? registry owner p).toList) := by
  have hextend := runBindings_extend registry r.types r.bindings h.bindings_bound
  unfold placeProperty missing?
  cases p.source with
  | inline node =>
    have hmissing : (TypeSource.inline node).missing? registry = none := rfl
    rw [hmissing]
    exact (hextend [node.text]).trans (by simp [settled, TypeSource.type])
  | reference target =>
    have hbindings : ((r.queue.pending ++ [Deferred.once
        (⟨r.types.length, owner, p.name, target⟩ : PropertyBinding)]).map (·.action)) =
          r.bindings ++ [⟨r.types.length, owner, p.name, target⟩] := List.map_append
    have hlast := PropertyBinding.run_last registry (settled registry r).1 owner p.name target
    rw [length_settled] at hlast
    simp only [settled, bindings] at hextend hlast ⊢
    simp only [hbindings, runBindings_append, bindings, hextend, runBindings, hlast,
      TypeSource.type, TypeSource.missing?]
    by_cases hknown : target.innermost.name ∈ registry
    · simp [hknown]
    · simp [hknown]

theorem length_types_placeProperties (ps : List PropertyPlan) :
    (r.placeProperties owner ps).1.types.length = r.types.length + ps.length := by
  induction ps generalizing r with
  | nil => rfl
  | cons p ps ih =>
    have hrest := ih (r := (r.placeProperty owner p).1)
    rw [length_types_placeProperty] at hrest
    rw [List.length_cons, ← Nat.add_assoc, Nat.add_right_comm]
    exact hrest

theorem placeProperties_drafts (ps : List PropertyPlan) :
    (r.placeProperties owner ps).2 = draftsFrom r.types.length ps := by
  induction ps generalizing r with
  | nil => rfl
  | cons p ps ih =>
    have hdraft : (r.placeProperty owner p).2 =
        ⟨p.name, p.required, p.description, r.types.length⟩ := by
      unfold placeProperty
      cases p.source <;> rfl
    have hrest := ih (r := (r.placeProperty owner p).1)
    rw [length_types_placeProperty] at hrest
    simp only [placeProperties, draftsFrom, hrest, hdraft]

theorem sound_placeProperties (h : r.Sound) (ps : List PropertyPlan) :
    (r.placeProperties owner ps).1.Sound := by
  induction ps generalizing r with
  | nil => exact h
  | cons p ps ih => exact ih (sound_placeProperty owner h p)

theorem settled_placeProperties (h : r.Sound) (ps : List PropertyPlan) :
    settled registry (r.placeProperties owner ps).1 =
      ((settled registry r).1 ++ ps.map (·.source.type registry),
        (settled registry r).2 ++ ps.filterMap (missing? registry owner)) := by
  induction ps generalizing r with
  | nil => simp [placeProperties]
  | cons p ps ih =>
    have hrest := ih (sound_placeProperty owner h p)
    rw [settled_placeProperty registry owner h p] at hrest
    refine hrest.trans ?_
    cases hp : missing? registry owner p <;> simp [hp]

theorem read_draftsFrom (ts : List String) (ps : List PropertyPlan) :
    (draftsFrom ts.length ps).map (readDraft (ts ++ ps.map (·.source.type registry))) =
      ps.map (·.property registry) := by
  induction ps generalizing ts with
  | nil => rfl
  | cons p ps ih =>
    have hrest := ih (ts ++ [p.source.type registry])
    rw [List.length_append, List.append_assoc] at hrest
    simp only [draftsFrom, List.map_cons]
    congr 1
    simp [readDraft, PropertyPlan.property]

theorem slot_of_mem_draftsFrom {slot : Nat} {ps : List PropertyPlan} {d : PropertyDraft}
    (h : d ∈ draftsFrom slot ps) : d.slot < slot + ps.length := by
  induction ps generalizing slot with
  | nil => cases h
  | cons p ps ih =>
    rw [List.length_cons]
    rcases List.mem_cons.mp h with rfl | h
    · show slot < slot + (ps.length + 1)
      omega
    · have := ih h
      omega

end Properties

section Models

variable (registry : List String) {r : Registration}

/-- The models and the reports, if the bindings that wait ran now. -/
def completed (registry : List String) (r : Registration) : List Model × List Diagnostic :=
  (r.models (settled registry r).1, (settled registry r).2)

theorem drafts_placeModel (r : Registration) (m : ModelPlan) :
    (r.placeModel m).drafts =
      r.drafts ++ [⟨m.name, m.title, m.generics, draftsFrom r.types.length m.properties⟩] := by
  have hframe := (r.placeProperties_frame m.name m.properties).1
  have hdrafts := placeProperties_drafts m.name (r := r) m.properties
  rw [← hdrafts, ← hframe]
  rfl

theorem sound_placeModel (h : r.Sound) (m : ModelPlan) : (r.placeModel m).Sound := by
  have hps := sound_placeProperties m.name h m.properties
  have hlength : (r.placeModel m).types.length = r.types.length + m.properties.length :=
    length_types_placeProperties m.name m.properties
  refine ⟨hps.opened, hps.plain, hps.bound, ?_⟩
  intro d hd p hp
  rw [hlength]
  rw [drafts_placeModel] at hd
  rcases List.mem_append.mp hd with hd | hd
  · exact Nat.lt_add_right _ (h.drafted d hd p hp)
  · obtain rfl := List.mem_singleton.mp hd
    exact slot_of_mem_draftsFrom hp

theorem models_extend (h : r.Sound) {ts : List String} (hts : ts.length = r.types.length)
    (us : List String) : r.models (ts ++ us) = r.models ts := by
  rw [models_eq, models_eq]
  apply List.map_congr_left
  intro d hd
  congr 1
  apply List.map_congr_left
  intro p hp
  have hslot : p.slot < ts.length := by
    rw [hts]
    exact h.drafted d hd p hp
  rw [readDraft, readDraft, List.getElem?_append_left hslot]

theorem completed_placeModel (h : r.Sound) (m : ModelPlan) :
    completed registry (r.placeModel m) =
      ((completed registry r).1 ++ [m.model registry],
        (completed registry r).2 ++ missing registry m) := by
  have hsettled : settled registry (r.placeModel m) = _ :=
    settled_placeProperties registry m.name h m.properties
  have hlength := length_settled registry r
  have hold := models_extend h hlength (m.properties.map (·.source.type registry))
  have hnew := read_draftsFrom registry (settled registry r).1 m.properties
  rw [hlength] at hnew
  unfold completed
  rw [hsettled]
  refine Prod.ext ?_ rfl
  rw [models_eq, drafts_placeModel, List.map_append, ← models_eq, hold, List.map_singleton, hnew]
  rfl

theorem sound_placeAll (h : r.Sound) (ms : List ModelPlan) : (r.placeAll ms).Sound := by
  induction ms generalizing r with
  | nil => exact h
  | cons m ms ih => exact ih (sound_placeModel h m)

/-- Each model that is placed adds itself, as the second pass types it, and its reports. -/
theorem completed_placeAll (h : r.Sound) (ms : List ModelPlan) :
    completed registry (r.placeAll ms) =
      ((completed registry r).1 ++ ms.map (·.model registry),
        (completed registry r).2 ++ ms.flatMap (missing registry)) := by
  induction ms generalizing r with
  | nil => simp [placeAll]
  | cons m ms ih =>
    have hrest := ih (sound_placeModel h m)
    rw [completed_placeModel registry h m] at hrest
    refine hrest.trans ?_
    simp

end Models

section Counts

theorem length_bindings_placeProperty (owner : String) (r : Registration) (p : PropertyPlan) :
    (r.placeProperty owner p).1.bindings.length =
      r.bindings.length + if p.source.isReference then 1 else 0 := by
  unfold placeProperty
  cases p.source with
  | reference target => simp [bindings, TypeSource.isReference]
  | inline node => simp [bindings, TypeSource.isReference]

theorem length_bindings_placeProperties (owner : String) (r : Registration)
    (ps : List PropertyPlan) :
    (r.placeProperties owner ps).1.bindings.length =
      r.bindings.length + ps.countP (·.source.isReference) := by
  induction ps generalizing r with
  | nil => rfl
  | cons p ps ih =>
    refine (ih (r.placeProperty owner p).1).trans ?_
    rw [length_bindings_placeProperty, List.countP_cons]
    omega

theorem length_bindings_placeAll (r : Registration) (ms : List ModelPlan) :
    (r.placeAll ms).bindings.length = r.bindings.length + countReferences ms := by
  induction ms generalizing r with
  | nil => rfl
  | cons m ms ih =>
    refine (ih (r.placeModel m)).trans ?_
    have hm : (r.placeModel m).bindings.length = _ :=
      length_bindings_placeProperties m.name r m.properties
    rw [hm, countReferences, countReferences, List.flatMap_cons, List.countP_append, Nat.add_assoc]

end Counts

theorem sound_empty : empty.Sound :=
  ⟨rfl, by simp [empty, BindingQueue.empty], by simp [empty, BindingQueue.empty], by simp [empty]⟩

theorem finish_eq {r : Registration} (h : r.Sound) :
    r.finish = ⟨.ok (completed r.names r).1,
      (completed r.names r).2 ++ [.modelsRegistered r.drafts.length r.bindings.length]⟩ := by
  have hdrain : r.queue.drainRun.actions = r.bindings := by
    obtain ⟨drafts, types, pending, drained⟩ := r
    obtain rfl : drained = false := h.opened
    unfold BindingQueue.DrainRun.actions
    rw [BindingQueue.drainRun_plain h.plain]
    rfl
  unfold finish
  rw [hdrain]
  rfl

end ClientCompiler.Registration

namespace ClientCompiler.TwoPass

open Registration (skipped missing missing?)

variable {table : TypeTable}

theorem name_of_plans {ds : List Definition} {ms : List ModelPlan}
    (h : (firsts ds).mapM (modelPlan table) = .ok ms) : ms.map (·.name) = names ds := by
  rw [map_name_of_mapM h, map_name_firsts]

theorem name_of_models {ds : List Definition} {ms : List ModelPlan}
    (h : (firsts ds).mapM (modelPlan table) = .ok ms) :
    (ms.map (·.model (names ds))).map (·.name) = names ds := by
  rw [List.map_map, ← name_of_plans h]
  rfl

theorem finish_placeAll {ds : List Definition} {ms : List ModelPlan}
    (h : (firsts ds).mapM (modelPlan table) = .ok ms) :
    (Registration.empty.placeAll ms).finish = ⟨.ok (ms.map (·.model (names ds))),
      ms.flatMap (missing (names ds)) ++
        [.modelsRegistered (names ds).length (countReferences ms)]⟩ := by
  have hsound := Registration.sound_placeAll Registration.sound_empty ms
  have hnames : (Registration.empty.placeAll ms).names = names ds :=
    (Registration.names_placeAll _ ms).trans (name_of_plans h)
  have hdrafts : (Registration.empty.placeAll ms).drafts.length = (names ds).length := by
    rw [← hnames]
    exact (List.length_map ModelDraft.name).symm
  have hbindings : (Registration.empty.placeAll ms).bindings.length = countReferences ms :=
    (Registration.length_bindings_placeAll _ ms).trans (Nat.zero_add _)
  rw [Registration.finish_eq hsound, hnames, hdrafts, hbindings,
    Registration.completed_placeAll _ Registration.sound_empty]
  rfl

theorem modelsOf_eq_returned {kvs : Value.Entries} {models : List Model} {log : List Diagnostic} :
    modelsOf table (.map kvs) = ⟨.ok models, log⟩ ↔
      ∃ ds ms, definitions table kvs = .ok ds ∧ (firsts ds).mapM (modelPlan table) = .ok ms ∧
        models = ms.map (·.model (names ds)) ∧
        log = (shadowedAfter [] ds).map skipped ++ (ms.flatMap (missing (names ds)) ++
          [.modelsRegistered (names ds).length (countReferences ms)]) := by
  have hnone : Registration.empty.Names [] := by
    intro n
    simp [Registration.names, Registration.empty]
  have hentries : Shape.entries (.map kvs) = .ok kvs := rfl
  simp only [modelsOf, hentries, Traced.bind_eq, Traced.lift_ok_bind, Traced.bind_eq_returned,
    Registration.addAll_eq_returned hnone rfl, ← firsts_eq_newAfter]
  constructor
  · rintro ⟨_, l, _, ⟨ds, ms, hds, hms, rfl, rfl⟩, hlast, rfl⟩
    rw [finish_placeAll hms] at hlast
    cases hlast
    exact ⟨ds, ms, hds, hms, rfl, rfl⟩
  · rintro ⟨ds, ms, hds, hms, rfl, rfl⟩
    exact ⟨_, _, _, ⟨ds, ms, hds, hms, rfl, rfl⟩, finish_placeAll hms, rfl⟩

def record (d : Diagnostic) : Level × String := (d.level, d.message)

theorem record_skipped (d : Definition) : record (skipped d) = skipRecord d := by
  unfold record skipped skipRecord Diagnostic.level Diagnostic.message
  dsimp only

theorem record_modelsRegistered (models references : Nat) :
    record (.modelsRegistered models references) =
      (.debug, s!"Registered {models} models, bound {references} references") := by
  unfold record Diagnostic.level Diagnostic.message
  dsimp only

theorem map_record_missing (registered : List String) (m : ModelPlan) :
    (missing registered m).map record = warnings registered m := by
  unfold missing warnings
  rw [List.map_filterMap]
  congr 1
  funext p
  unfold missing?
  rw [Option.map_map]
  congr 1
  funext name
  exact Prod.ext rfl (unresolvedMessage_context name m.name p.name)

theorem map_record_log (ds : List Definition) (ms : List ModelPlan) :
    ((shadowedAfter [] ds).map skipped ++ (ms.flatMap (missing (names ds)) ++
      [Diagnostic.modelsRegistered (names ds).length (countReferences ms)])).map record =
        records ds ms := by
  have hskipped : record ∘ skipped = skipRecord := funext record_skipped
  have hmissing : (fun m => (missing (names ds) m).map record) = warnings (names ds) :=
    funext (map_record_missing (names ds))
  rw [List.map_append, List.map_append, List.map_map, hskipped, List.map_flatMap, hmissing,
    records, List.append_assoc, List.map_singleton, record_modelsRegistered]

/-- Extraction with queued bindings gives the models and the records of the two passes, and it gives
none where they give none. -/
theorem modelsOf_iff_outcome (table : TypeTable) (kvs : Value.Entries) (models : List Model)
    (told : List (Level × String)) :
    (∃ log, modelsOf table (.map kvs) = ⟨.ok models, log⟩ ∧ log.map record = told) ↔
      outcome table kvs = .ok (models, told) := by
  simp only [modelsOf_eq_returned, outcome, bind_eq_ok, pure_eq_ok, Prod.mk.injEq]
  constructor
  · rintro ⟨_, ⟨ds, ms, hds, hms, rfl, rfl⟩, rfl⟩
    exact ⟨ds, hds, ms, hms, rfl, (map_record_log ds ms).symm⟩
  · rintro ⟨ds, hds, ms, hms, rfl, rfl⟩
    exact ⟨_, ⟨ds, ms, hds, hms, rfl, rfl⟩, map_record_log ds ms⟩

/-- A reference forward, one to the model itself, and one to nothing. -/
example :
    let schema (name : String) : Value := .map [(.str "$ref", .str ("#/definitions/" ++ name))]
    let fields : Value.Entries :=
      [(.str "b", schema "B"), (.str "a", schema "A"), (.str "c", schema "C")]
    (modelsOf .typeScript (.map [(.str "A", .map [(.str "properties", .map fields)]),
      (.str "B", .map [])])).log =
      [.unresolved "C" (some "A.c"), .modelsRegistered 2 3] := by
  decide +kernel

end ClientCompiler.TwoPass
