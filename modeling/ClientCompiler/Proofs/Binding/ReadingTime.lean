import ClientCompiler.Proofs.Binding.Settling
import Mathlib.Data.List.Nodup
import Mathlib.Data.List.Perm.Subperm

/-!
When the binding of a property reads the registry: at the moment it runs, and only then. The history
of a session is the bindings that were made, one for each property, and the readings of the registry
by bindings that ran. Types and reports follow from the history alone.
-/

namespace ClientCompiler

def SessionAction.binding? : SessionAction → Option PropertyBinding
  | .note _ => none
  | .bind b => some b

mutual

def Deferred.bindings : Deferred SessionAction → List PropertyBinding
  | .mk a ds _ => a.binding?.toList ++ bindingsOfAll ds

def bindingsOfAll : List (Deferred SessionAction) → List PropertyBinding
  | [] => []
  | d :: ds => d.bindings ++ bindingsOfAll ds

end

/-- A binding that ran, and what the registry held at that moment. -/
structure RegistryReading where
  binding : PropertyBinding
  registry : List String

namespace RegistryReading

def slot (r : RegistryReading) : Nat := r.binding.slot

def Met (r : RegistryReading) : Prop := r.binding.wanted ∈ r.registry

instance (r : RegistryReading) : Decidable r.Met := inferInstanceAs (Decidable (_ ∈ _))

end RegistryReading

structure BindingHistory where
  made : List PropertyBinding
  ran : List RegistryReading

namespace BindingHistory

def empty : BindingHistory := ⟨[], []⟩

def typeOf (h : BindingHistory) (b : PropertyBinding) : String :=
  if ∃ r ∈ h.ran, r.slot = b.slot ∧ r.Met then b.target.text else "any"

def propertyOf (h : BindingHistory) (b : PropertyBinding) : SessionProperty :=
  ⟨b.owner, b.name, h.typeOf b⟩

def reports (h : BindingHistory) : List Diagnostic :=
  h.ran.filterMap fun r => if r.Met then none else some r.binding.unresolved

def after (h : BindingHistory) (registry : List String) (as : List SessionAction) : BindingHistory :=
  ⟨h.made, h.ran ++ (as.filterMap SessionAction.binding?).map fun b => ⟨b, registry⟩⟩

/-- The history after a step, which makes a property with its binding, runs that, or drains. -/
def next (h : BindingHistory) (s : BindingSession) : SessionStep → BindingHistory
  | .property owner name target => ⟨h.made ++ [⟨s.properties.length, owner, name, target⟩], h.ran⟩
  | .bindNow owner name target =>
    let b : PropertyBinding := ⟨s.properties.length, owner, name, target⟩
    after ⟨h.made ++ [b], h.ran⟩ s.registry [.bind b]
  | .drain => h.after s.registry s.queue.drainRun.actions
  | _ => h

end BindingHistory

structure BindingCourse where
  session : BindingSession
  history : BindingHistory
  log : List Diagnostic

namespace BindingCourse

def start : BindingCourse := ⟨.start, .empty, []⟩

def step (c : BindingCourse) (e : SessionStep) : BindingCourse :=
  ⟨(c.session.step e).1, c.history.next c.session e, c.log ++ (c.session.step e).2.2⟩

def run (c : BindingCourse) (es : List SessionStep) : BindingCourse := es.foldl step c

def perform (c : BindingCourse) (as : List SessionAction) : BindingCourse :=
  ⟨(c.session.performAll as).1, c.history.after c.session.registry as,
    c.log ++ (c.session.performAll as).2⟩

def newBinding (c : BindingCourse) (owner name : String) (target : TypeNode) : PropertyBinding :=
  ⟨c.session.properties.length, owner, name, target⟩

/-- The course after a property was made, before anything happens to its binding. -/
def make (c : BindingCourse) (owner name : String) (target : TypeNode) : BindingCourse :=
  ⟨(c.session.addProperty owner name target).1,
    ⟨c.history.made ++ [c.newBinding owner name target], c.history.ran⟩, c.log⟩

def newBindings (c : BindingCourse) : SessionStep → List PropertyBinding
  | .property owner name target => [c.newBinding owner name target]
  | .bindNow owner name target => [c.newBinding owner name target]
  | _ => []

def outstanding (c : BindingCourse) : List PropertyBinding :=
  c.history.ran.map (·.binding) ++ bindingsOfAll c.session.queue.pending

/-- What the history tells is what the session shows. -/
structure Explained (c : BindingCourse) : Prop where
  properties : c.session.properties = c.history.made.map c.history.propertyOf
  reports : c.log = c.history.reports

end BindingCourse

/-- A step that defers no binding of a property along with other actions. -/
def SessionStep.Ordinary : SessionStep → Prop
  | .defer d => d.bindings = []
  | _ => True

/-! ## What a queue keeps -/

section Queue

theorem bindingsOfAll_append (ds es : List (Deferred SessionAction)) :
    bindingsOfAll (ds ++ es) = bindingsOfAll ds ++ bindingsOfAll es := by
  induction ds with
  | nil => rfl
  | cons d ds ih => simp [bindingsOfAll, ih]

theorem Deferred.bindings_eq (d : Deferred SessionAction) :
    d.bindings = d.action.binding?.toList ++ bindingsOfAll d.next := by
  cases d
  rfl

theorem pending_of_defer? {q r : BindingQueue SessionAction} {d : Deferred SessionAction}
    (h : q.defer? d = some r) : r.pending = q.pending ++ [d] := by
  unfold BindingQueue.defer? at h
  split at h
  · cases h
  · exact congrArg BindingQueue.pending (Option.some.inj h).symm

theorem bindings_deferAll (es : List (Deferred SessionAction)) (q : BindingQueue SessionAction) :
    (bindingsOfAll (q.deferAll es).1.pending).Sublist
      (bindingsOfAll q.pending ++ bindingsOfAll es) := by
  induction es generalizing q with
  | nil => simp [BindingQueue.deferAll, bindingsOfAll]
  | cons e es ih =>
    unfold BindingQueue.deferAll
    cases hq : q.defer? e with
    | none => exact List.sublist_append_left _ _
    | some r =>
      have hrest := ih r
      rw [pending_of_defer? hq, bindingsOfAll_append] at hrest
      simpa [bindingsOfAll] using hrest

theorem bindings_defer (q : BindingQueue SessionAction) (d : Deferred SessionAction) :
    (bindingsOfAll ((q.defer? d).getD q).pending).Sublist
      (bindingsOfAll q.pending ++ d.bindings) := by
  cases hq : q.defer? d with
  | none => exact List.sublist_append_left _ _
  | some r =>
    rw [Option.getD_some, pending_of_defer? hq, bindingsOfAll_append]
    simp [bindingsOfAll]

theorem session_defer (s : BindingSession) (d : Deferred SessionAction) :
    (s.defer d).1 = { s with queue := (s.queue.defer? d).getD s.queue } ∧ (s.defer d).2.2 = [] := by
  unfold BindingSession.defer
  cases s.queue.defer? d <;> exact ⟨rfl, rfl⟩

/-- What a drain ran and what it left were all pending before, each once. -/
theorem bindings_runPending (fuel : Nat) (q : BindingQueue SessionAction) :
    ((q.runPending fuel).actions.filterMap SessionAction.binding? ++
      bindingsOfAll (q.runPending fuel).queue.pending).Subperm (bindingsOfAll q.pending) := by
  induction fuel generalizing q with
  | zero => exact List.Subperm.refl _
  | succ fuel ih =>
    obtain ⟨ds, b⟩ := q
    cases ds with
    | nil => exact List.Subperm.refl _
    | cons d ds =>
      have hkept := bindings_deferAll d.next ⟨ds, b⟩
      generalize hq : BindingQueue.deferAll ⟨ds, b⟩ d.next = deferred at hkept
      obtain ⟨q, accepted⟩ := deferred
      have hpending : (d.action.binding?.toList ++ bindingsOfAll q.pending).Subperm
          (bindingsOfAll (d :: ds)) := by
        rw [bindingsOfAll, Deferred.bindings_eq, List.append_assoc]
        refine (List.subperm_append_left _).mpr ?_
        exact hkept.subperm.trans List.perm_append_comm.subperm
      have hhead (as : List (Deferred SessionAction)) :
          ((d :: as).map (·.action)).filterMap SessionAction.binding? =
            d.action.binding?.toList ++ (as.map (·.action)).filterMap SessionAction.binding? := by
        cases h : d.action.binding? <;> simp [h]
      simp only [BindingQueue.runPending, hq]
      split
      · rw [BindingQueue.DrainRun.actions, hhead]
        simpa using hpending
      · rw [BindingQueue.DrainRun.actions, hhead, List.append_assoc]
        exact ((List.subperm_append_left _).mpr (ih q)).trans hpending

end Queue

/-! ## One binding -/

def Placed (made : List PropertyBinding) : Prop :=
  ∀ i (b : PropertyBinding), made[i]? = some b → b.slot = i

namespace Placed

variable {made : List PropertyBinding} {a b : PropertyBinding}

theorem eq_of_slot (h : Placed made) (ha : a ∈ made) (hb : b ∈ made) (hslot : a.slot = b.slot) :
    a = b := by
  obtain ⟨i, hi⟩ := List.getElem?_of_mem ha
  obtain ⟨j, hj⟩ := List.getElem?_of_mem hb
  have hij : i = j := by rw [← h i a hi, ← h j b hj, hslot]
  subst hij
  exact Option.some.inj (hi.symm.trans hj)

theorem slot_lt (h : Placed made) (hb : b ∈ made) : b.slot < made.length := by
  obtain ⟨i, hi⟩ := List.getElem?_of_mem hb
  rw [h i b hi]
  exact (List.getElem?_eq_some_iff.mp hi).1

theorem concat (h : Placed made) (hb : b.slot = made.length) : Placed (made ++ [b]) := by
  intro i a hi
  rw [List.getElem?_append] at hi
  split at hi
  · exact h i a hi
  · next hlong =>
    obtain ⟨hlast, hab⟩ := List.getElem?_eq_some_iff.mp hi
    rw [List.length_singleton] at hlast
    have hzero : i - made.length = 0 := by omega
    simp only [hzero, List.getElem_cons_zero] at hab
    subst hab
    omega

end Placed

namespace BindingHistory

variable (h : BindingHistory) (registry : List String)

theorem after_bind (a : PropertyBinding) :
    h.after registry [.bind a] = ⟨h.made, h.ran ++ [⟨a, registry⟩]⟩ := rfl

theorem after_note (label : String) : h.after registry [.note label] = h :=
  congrArg (BindingHistory.mk h.made) (List.append_nil h.ran)

theorem typeOf_after (a b : PropertyBinding) :
    (h.after registry [.bind a]).typeOf b =
      if a.slot = b.slot ∧ a.wanted ∈ registry then b.target.text else h.typeOf b := by
  have hexists : (∃ r ∈ (h.after registry [.bind a]).ran, r.slot = b.slot ∧ r.Met) ↔
      (∃ r ∈ h.ran, r.slot = b.slot ∧ r.Met) ∨ a.slot = b.slot ∧ a.wanted ∈ registry := by
    simp [after_bind, or_and_right, exists_or, RegistryReading.slot, RegistryReading.Met]
  unfold typeOf
  simp only [hexists]
  by_cases ha : a.slot = b.slot ∧ a.wanted ∈ registry <;> simp [ha]

theorem reports_after (a : PropertyBinding) :
    (h.after registry [.bind a]).reports =
      h.reports ++ if a.wanted ∈ registry then [] else [a.unresolved] := by
  rw [after_bind]
  unfold reports
  rw [List.filterMap_append]
  by_cases ha : a.wanted ∈ registry <;> simp [ha, RegistryReading.Met]

end BindingHistory

namespace BindingCourse

variable {c : BindingCourse}

theorem Explained.bind (h : c.Explained) (hplaced : Placed c.history.made) {a : PropertyBinding}
    (ha : a ∈ c.history.made) : (c.perform [.bind a]).Explained := by
  have hmade : (c.perform [.bind a]).history.made = c.history.made := rfl
  have hhistory : (c.perform [.bind a]).history =
      c.history.after c.session.registry [.bind a] := rfl
  constructor
  · rw [hmade, hhistory]
    by_cases hmet : a.wanted ∈ c.session.registry
    · have hsession : (c.perform [.bind a]).session.properties =
          c.session.properties.modify a.slot fun p => { p with type := a.target.text } := by
        simp [perform, BindingSession.performAll, BindingSession.perform, hmet]
      rw [hsession, h.properties]
      refine List.ext_getElem? fun i => ?_
      rw [List.getElem?_modify, List.getElem?_map, List.getElem?_map]
      cases hi : c.history.made[i]? with
      | none => simp
      | some b =>
        have hb := hplaced i b hi
        by_cases hslot : a.slot = i
        · obtain rfl := hplaced.eq_of_slot ha (List.mem_of_getElem? hi) (hslot.trans hb.symm)
          simp [BindingHistory.propertyOf, BindingHistory.typeOf_after, hslot, hmet]
        · have hother : ¬a.slot = b.slot := by rwa [hb]
          simp [BindingHistory.propertyOf, BindingHistory.typeOf_after, hslot, hother]
    · have hsession : (c.perform [.bind a]).session.properties = c.session.properties := by
        simp [perform, BindingSession.performAll, BindingSession.perform, hmet]
      rw [hsession, h.properties]
      refine List.map_congr_left fun b _ => ?_
      simp [BindingHistory.propertyOf, BindingHistory.typeOf_after, hmet]
  · rw [hhistory, BindingHistory.reports_after, ← h.reports]
    by_cases hmet : a.wanted ∈ c.session.registry <;>
      simp [perform, BindingSession.performAll, BindingSession.perform, hmet]

theorem Explained.note (h : c.Explained) (label : String) : (c.perform [.note label]).Explained := by
  have hhistory : (c.perform [.note label]).history = c.history :=
    BindingHistory.after_note c.history c.session.registry label
  constructor
  · rw [hhistory]
    exact h.properties
  · rw [hhistory, ← h.reports]
    exact List.append_nil c.log

theorem registry_perform (s : BindingSession) (a : SessionAction) :
    (s.perform a).1.registry = s.registry ∧ (s.perform a).1.queue = s.queue := by
  cases a with
  | note label => exact ⟨rfl, rfl⟩
  | bind b =>
    rw [BindingSession.perform]
    split <;> simp

theorem registry_performAll (as : List SessionAction) (s : BindingSession) :
    (s.performAll as).1.registry = s.registry ∧ (s.performAll as).1.queue = s.queue := by
  induction as generalizing s with
  | nil => exact ⟨rfl, rfl⟩
  | cons a as ih =>
    obtain ⟨hregistry, hqueue⟩ := registry_perform s a
    obtain ⟨hregistry', hqueue'⟩ := ih (s.perform a).1
    exact ⟨hregistry'.trans hregistry, hqueue'.trans hqueue⟩

theorem perform_cons (c : BindingCourse) (a : SessionAction) (as : List SessionAction) :
    c.perform (a :: as) = (c.perform [a]).perform as := by
  have hregistry : (c.perform [a]).session.registry = c.session.registry :=
    (registry_performAll [a] c.session).1
  have hnil (s : BindingSession) : s.performAll [] = (s, []) := rfl
  have hran : c.history.after c.session.registry (a :: as) =
      (c.history.after c.session.registry [a]).after c.session.registry as := by
    cases h : a.binding? <;> simp [BindingHistory.after, h]
  unfold perform at hregistry ⊢
  rw [hregistry, hran]
  simp [BindingSession.performAll]

/-- The step lemma: what runs next is explained if the bindings among it were made. -/
theorem Explained.perform (as : List SessionAction) (h : c.Explained)
    (hplaced : Placed c.history.made)
    (hmade : ∀ b ∈ as.filterMap SessionAction.binding?, b ∈ c.history.made) :
    (c.perform as).Explained := by
  induction as generalizing c with
  | nil => simpa [BindingCourse.perform, BindingSession.performAll, BindingHistory.after] using h
  | cons a as ih =>
    rw [perform_cons]
    have hrest : ∀ b ∈ as.filterMap SessionAction.binding?, b ∈ c.history.made := by
      intro b hb
      refine hmade b (List.mem_filterMap.mpr ?_)
      obtain ⟨x, hx, hxb⟩ := List.mem_filterMap.mp hb
      exact ⟨x, List.mem_cons_of_mem a hx, hxb⟩
    cases a with
    | note label => exact ih (h.note label) hplaced hrest
    | bind b =>
      have hb : b ∈ c.history.made := hmade b (by simp [SessionAction.binding?])
      exact ih (h.bind hplaced hb) hplaced hrest

theorem Explained.make (h : c.Explained) (hran : ∀ r ∈ c.history.ran, r.slot < c.history.made.length)
    (owner name : String) (target : TypeNode) : (c.make owner name target).Explained := by
  refine ⟨?_, h.reports⟩
  have hlength : c.session.properties.length = c.history.made.length := by simp [h.properties]
  have hany : ¬∃ r ∈ c.history.ran, r.slot = c.history.made.length ∧ r.Met := by
    rintro ⟨r, hr, hslot, -⟩
    have hlt := hran r hr
    omega
  have hold : c.history.made.map (c.make owner name target).history.propertyOf =
      c.session.properties := h.properties.symm
  have hmade : (c.make owner name target).history.made =
      c.history.made ++ [c.newBinding owner name target] := rfl
  rw [hmade, List.map_append, hold]
  simp [BindingCourse.make, newBinding, BindingSession.addProperty, BindingHistory.propertyOf,
    BindingHistory.typeOf, hlength, hany]

/-! ## One step -/

theorem performAll_singleton (s : BindingSession) (a : SessionAction) :
    s.performAll [a] = s.perform a := by
  simp [BindingSession.performAll]

theorem step_defer (c : BindingCourse) (d : Deferred SessionAction) :
    c.step (.defer d) =
      ⟨{ c.session with queue := (c.session.queue.defer? d).getD c.session.queue }, c.history,
        c.log⟩ := by
  obtain ⟨hsession, hlog⟩ := session_defer c.session d
  have hstep : c.step (.defer d) =
      ⟨(c.session.defer d).1, c.history, c.log ++ (c.session.defer d).2.2⟩ := rfl
  rw [hstep, hsession, hlog, List.append_nil]

theorem step_property (c : BindingCourse) (owner name : String) (target : TypeNode) :
    c.step (.property owner name target) =
      (c.make owner name target).step (.defer (.once (.bind (c.newBinding owner name target)))) :=
  rfl

theorem step_bindNow (c : BindingCourse) (owner name : String) (target : TypeNode) :
    c.step (.bindNow owner name target) =
      (c.make owner name target).perform [.bind (c.newBinding owner name target)] := by
  rw [perform, performAll_singleton]
  rfl

theorem made_step (c : BindingCourse) (e : SessionStep) :
    (c.step e).history.made = c.history.made ++ c.newBindings e := by
  cases e with
  | property | bindNow => rfl
  | _ => exact (List.append_nil _).symm

theorem ran_step (c : BindingCourse) (e : SessionStep) :
    ∃ rs, (c.step e).history.ran = c.history.ran ++ rs := by
  cases e with
  | bindNow | drain => exact ⟨_, rfl⟩
  | _ => exact ⟨[], (List.append_nil _).symm⟩

theorem outstanding_defer (c : BindingCourse) (d : Deferred SessionAction) :
    (c.step (.defer d)).outstanding.Sublist (c.outstanding ++ d.bindings) := by
  rw [step_defer, outstanding, outstanding, List.append_assoc]
  exact (bindings_defer c.session.queue d).append_left _

/-- A step adds the bindings that it makes, and takes none twice from the queue. -/
theorem outstanding_step (c : BindingCourse) {e : SessionStep} (he : e.Ordinary) :
    (c.step e).outstanding.Subperm (c.outstanding ++ c.newBindings e) := by
  cases e with
  | new =>
    have hran : (c.step .new).outstanding = c.history.ran.map (·.binding) ++ [] := rfl
    rw [hran, outstanding, List.append_assoc]
    exact ((List.nil_sublist _).append_left _).subperm
  | register name | unregister name =>
    exact (List.sublist_append_left c.outstanding []).subperm
  | defer d =>
    have hd : d.bindings = [] := he
    have hkept := outstanding_defer c d
    rw [hd] at hkept
    exact hkept.subperm
  | property owner name target =>
    rw [step_property]
    exact (outstanding_defer (c.make owner name target) _).subperm
  | bindNow owner name target =>
    -- The binding runs without going through the queue, so only what has run grows.
    have hqueue : ((c.make owner name target).perform
        [.bind (c.newBinding owner name target)]).session.queue = c.session.queue :=
      (registry_performAll _ _).2
    rw [step_bindNow, outstanding, hqueue, outstanding, List.append_assoc]
    have hran : ((c.make owner name target).perform
        [.bind (c.newBinding owner name target)]).history.ran.map (·.binding) =
        c.history.ran.map (·.binding) ++ [c.newBinding owner name target] := List.map_append
    rw [hran, List.append_assoc]
    exact (List.perm_append_comm.append_left _).subperm
  | drain =>
    -- What a drain runs comes out of the queue; a deferral refused on the way is lost.
    have hkept := bindings_runPending (Deferred.sizeAll c.session.queue.pending + 1) c.session.queue
    have hran : (c.step .drain).history.ran.map (·.binding) = c.history.ran.map (·.binding) ++
        c.session.queue.drainRun.actions.filterMap SessionAction.binding? := by
      simp [step, BindingHistory.next, BindingHistory.after, Function.comp_def]
    rw [outstanding, hran, outstanding, List.append_assoc, List.append_assoc]
    refine (List.subperm_append_left _).mpr (hkept.trans ?_)
    exact (List.sublist_append_left _ []).subperm

/-! ## Whole runs -/

structure Sound (c : BindingCourse) : Prop where
  explained : c.Explained
  placed : Placed c.history.made
  made : ∀ b ∈ c.outstanding, b ∈ c.history.made
  once : (c.outstanding.map (·.slot)).Nodup

theorem sound_start : start.Sound := by
  refine ⟨⟨rfl, rfl⟩, ?_, ?_, List.nodup_nil⟩
  · intro i b hi
    cases hi
  · intro b hb
    cases hb

variable {d : BindingCourse}

theorem Explained.of_same (h : c.Explained)
    (hproperties : d.session.properties = c.session.properties) (hhistory : d.history = c.history)
    (hlog : d.log = c.log) : d.Explained := by
  constructor
  · rw [hproperties, hhistory]
    exact h.properties
  · rw [hlog, hhistory]
    exact h.reports

theorem Sound.slot_newBinding (h : c.Sound) (owner name : String) (target : TypeNode) :
    (c.newBinding owner name target).slot = c.history.made.length := by
  simp [newBinding, h.explained.properties]

theorem Sound.slot_of_new (h : c.Sound) {e : SessionStep} {b : PropertyBinding}
    (hb : b ∈ c.newBindings e) : b.slot = c.history.made.length := by
  cases e with
  | property owner name target | bindNow owner name target =>
    rw [List.mem_singleton.mp hb]
    exact h.slot_newBinding owner name target
  | _ => cases hb

theorem Sound.slot_lt_of_ran (h : c.Sound) :
    ∀ r ∈ c.history.ran, r.slot < c.history.made.length := by
  intro r hr
  refine h.placed.slot_lt (h.made _ (List.mem_append_left _ ?_))
  exact List.mem_map_of_mem hr

theorem Sound.placed_step (h : c.Sound) (e : SessionStep) : Placed (c.step e).history.made := by
  rw [made_step]
  cases e with
  | property owner name target | bindNow owner name target =>
    exact h.placed.concat (h.slot_newBinding owner name target)
  | _ => simpa [newBindings] using h.placed

theorem Sound.mem_made_of_pending (h : c.Sound) {b : PropertyBinding}
    (hb : b ∈ c.session.queue.drainRun.actions.filterMap SessionAction.binding?) :
    b ∈ c.history.made := by
  have hkept := bindings_runPending (Deferred.sizeAll c.session.queue.pending + 1) c.session.queue
  exact h.made b (List.mem_append_right _ (hkept.subset (List.mem_append_left _ hb)))

theorem Sound.explained_step (h : c.Sound) (e : SessionStep) : (c.step e).Explained := by
  have hsilent : c.log ++ [] = c.log := List.append_nil c.log
  cases e with
  | new | register name | unregister name => exact h.explained.of_same rfl rfl hsilent
  | defer d =>
    rw [step_defer]
    exact h.explained.of_same rfl rfl rfl
  | property owner name target =>
    rw [step_property, step_defer]
    exact (h.explained.make h.slot_lt_of_ran owner name target).of_same rfl rfl rfl
  | bindNow owner name target =>
    have hplaced := h.placed.concat (h.slot_newBinding owner name target)
    rw [step_bindNow]
    refine (h.explained.make h.slot_lt_of_ran owner name target).bind hplaced ?_
    exact List.mem_append_right _ List.mem_cons_self
  | drain =>
    refine (h.explained.perform c.session.queue.drainRun.actions h.placed ?_).of_same rfl rfl rfl
    exact fun b hb => h.mem_made_of_pending hb

theorem nodup_of_subperm {as bs : List PropertyBinding} (h : as.Subperm bs)
    (hb : (bs.map (·.slot)).Nodup) : (as.map (·.slot)).Nodup := by
  obtain ⟨cs, hperm, hsub⟩ := h
  exact (hperm.map (·.slot)).nodup_iff.mp ((hsub.map (·.slot)).nodup hb)

theorem Sound.step (h : c.Sound) {e : SessionStep} (he : e.Ordinary) : (c.step e).Sound := by
  have hkept := outstanding_step c he
  refine ⟨h.explained_step e, h.placed_step e, ?_, nodup_of_subperm hkept ?_⟩
  · intro b hb
    rw [made_step]
    rcases List.mem_append.mp (hkept.subset hb) with hb | hb
    · exact List.mem_append_left _ (h.made b hb)
    · exact List.mem_append_right _ hb
  · rw [List.map_append, List.nodup_append]
    refine ⟨h.once, ?_, ?_⟩
    · cases e <;> simp [newBindings]
    · intro i hi j hj
      obtain ⟨a, ha, rfl⟩ := List.mem_map.mp hi
      obtain ⟨b, hb, rfl⟩ := List.mem_map.mp hj
      have hlt := h.placed.slot_lt (h.made a ha)
      have hslot := h.slot_of_new hb
      omega

theorem Sound.run (h : c.Sound) (es : List SessionStep) (hes : ∀ e ∈ es, e.Ordinary) :
    (c.run es).Sound := by
  induction es generalizing c with
  | nil => exact h
  | cons e es ih =>
    obtain ⟨he, hes⟩ := List.forall_mem_cons.mp hes
    exact ih (h.step he) hes

theorem run_append (es fs : List SessionStep) (c : BindingCourse) :
    c.run (es ++ fs) = (c.run es).run fs := List.foldl_append

theorem made_run (es : List SessionStep) (c : BindingCourse) :
    ∃ bs, (c.run es).history.made = c.history.made ++ bs := by
  induction es generalizing c with
  | nil => exact ⟨[], (List.append_nil _).symm⟩
  | cons e es ih =>
    obtain ⟨bs, hbs⟩ := ih (c.step e)
    exact ⟨c.newBindings e ++ bs, by rw [← List.append_assoc, ← made_step]; exact hbs⟩

theorem ran_run (es : List SessionStep) (c : BindingCourse) :
    ∃ rs, (c.run es).history.ran = c.history.ran ++ rs := by
  induction es generalizing c with
  | nil => exact ⟨[], (List.append_nil _).symm⟩
  | cons e es ih =>
    obtain ⟨rs, hrs⟩ := ran_step c e
    obtain ⟨rs', hrs'⟩ := ih (c.step e)
    exact ⟨rs ++ rs', by rw [← List.append_assoc, ← hrs]; exact hrs'⟩

theorem Sound.once_ran (h : c.Sound) : (c.history.ran.map (·.slot)).Nodup := by
  have honce := h.once
  rw [outstanding, List.map_append, List.map_map] at honce
  exact (List.nodup_append.mp honce).1

theorem Explained.property (h : c.Explained) (i : Nat) :
    c.session.properties[i]? = c.history.made[i]?.map c.history.propertyOf := by
  rw [h.properties, List.getElem?_map]

/-- No later reading gives a property another type once its binding has run. -/
theorem Sound.lasting (h : c.Sound) {es : List SessionStep} (hes : ∀ e ∈ es, e.Ordinary)
    {r : RegistryReading} (hr : r ∈ c.history.ran) :
    (c.run es).session.properties[r.slot]? = c.session.properties[r.slot]? := by
  have hafter := h.run es hes
  obtain ⟨bs, hmade⟩ := made_run es c
  obtain ⟨rs, hran⟩ := ran_run es c
  have honce := hafter.once_ran
  rw [hran, List.map_append, List.nodup_append] at honce
  have hlt := h.slot_lt_of_ran r hr
  rw [hafter.explained.property, h.explained.property, hmade, List.getElem?_append_left hlt]
  cases hb : c.history.made[r.slot]? with
  | none => rfl
  | some b =>
    have hslot := h.placed _ b hb
    have hno : ¬∃ r' ∈ rs, r'.slot = b.slot ∧ r'.Met := by
      rintro ⟨r', hr', hsame, -⟩
      exact honce.2.2 _ (List.mem_map_of_mem hr) _ (List.mem_map_of_mem hr') (by omega)
    simp only [Option.map_some, BindingHistory.propertyOf, BindingHistory.typeOf, hran,
      List.mem_append, or_and_right, exists_or, hno, or_false]

/-- A property whose binding is neither run nor waiting is never bound. -/
structure Skipped (c : BindingCourse) (slot : Nat) : Prop where
  made : slot < c.history.made.length
  skipped : ∀ b ∈ c.outstanding, b.slot ≠ slot

theorem Skipped.step {slot : Nat} (hskipped : c.Skipped slot) (h : c.Sound) {e : SessionStep}
    (he : e.Ordinary) : (c.step e).Skipped slot := by
  have hlt := hskipped.made
  constructor
  · rw [made_step, List.length_append]
    omega
  · intro b hb
    rcases List.mem_append.mp ((outstanding_step c he).subset hb) with hb | hb
    · exact hskipped.skipped b hb
    · have hslot := h.slot_of_new hb
      omega

theorem Skipped.run {slot : Nat} (hskipped : c.Skipped slot) (h : c.Sound) (es : List SessionStep)
    (hes : ∀ e ∈ es, e.Ordinary) : (c.run es).Skipped slot := by
  induction es generalizing c with
  | nil => exact hskipped
  | cons e es ih =>
    obtain ⟨he, hes⟩ := List.forall_mem_cons.mp hes
    exact ih (hskipped.step h he) (h.step he) hes

theorem Sound.skipped_of_refused (h : c.Sound) {owner name : String} {target : TypeNode}
    (hrefused : (c.session.step (.property owner name target)).2.1 = .error .queueClosed) :
    (c.step (.property owner name target)).Skipped c.history.made.length := by
  have hclosed :
      c.session.queue.defer? (.once (.bind (c.newBinding owner name target))) = none := by
    cases hq : c.session.queue.defer? (.once (.bind (c.newBinding owner name target))) with
    | none => rfl
    | some q =>
      have haccepted : (c.session.step (.property owner name target)).2.1 = .ok none := by
        change ((c.make owner name target).session.defer
          (.once (.bind (c.newBinding owner name target)))).2.1 = .ok none
        have hqueue : (c.make owner name target).session.queue = c.session.queue := rfl
        unfold BindingSession.defer
        rw [hqueue, hq]
      rw [haccepted] at hrefused
      cases hrefused
  have houtstanding : (c.step (.property owner name target)).outstanding = c.outstanding := by
    have hqueue : (c.make owner name target).session.queue = c.session.queue := rfl
    rw [step_property, step_defer, hqueue, hclosed]
    rfl
  constructor
  · rw [made_step, List.length_append]
    exact Nat.lt_add_one _
  · intro b hb
    rw [houtstanding] at hb
    have hlt := h.placed.slot_lt (h.made b hb)
    omega

theorem Skipped.property (h : c.Explained) {slot : Nat} (hskipped : c.Skipped slot)
    (hplaced : Placed c.history.made) {b : PropertyBinding} (hb : c.history.made[slot]? = some b) :
    c.session.properties[slot]? = some ⟨b.owner, b.name, "any"⟩ := by
  have hslot := hplaced slot b hb
  have hno : ¬∃ r ∈ c.history.ran, r.slot = b.slot ∧ r.Met := by
    rintro ⟨r, hr, hsame, -⟩
    refine hskipped.skipped r.binding (List.mem_append_left _ (List.mem_map_of_mem hr)) ?_
    exact hsame.trans hslot
  rw [h.property, hb]
  simp [BindingHistory.propertyOf, BindingHistory.typeOf, hno]

end BindingCourse

open BindingCourse

/-- What a session shows after some steps is what its bindings read when they ran. -/
structure ReadWhenRun (es : List SessionStep) : Prop where
  explained : (start.run es).Explained
  /-- Also between the actions of a drain. -/
  inside_drain : ∀ n, ((start.run es).perform
    ((start.run es).session.queue.drainRun.actions.take n)).Explained
  /-- Each property has a binding of its own, which is run once at most. -/
  placed : Placed (start.run es).history.made
  once : ((start.run es).history.ran.map (·.slot)).Nodup
  ran_made : ∀ r ∈ (start.run es).history.ran, r.binding ∈ (start.run es).history.made
  /-- Nothing that follows changes a property whose binding has run. -/
  lasting : ∀ fs : List SessionStep, (∀ e ∈ fs, e.Ordinary) → ∀ r ∈ (start.run es).history.ran,
    (start.run (es ++ fs)).session.properties[r.slot]? =
      (start.run es).session.properties[r.slot]?
  /-- A property whose deferral is refused stays as it was made, and its binding never runs. -/
  refused : ∀ owner name target, ((start.run es).session.step (.property owner name target)).2.1 =
      .error .queueClosed →
    ∀ fs : List SessionStep, (∀ e ∈ fs, e.Ordinary) →
      (start.run (es ++ .property owner name target :: fs)).session.properties[
        (start.run es).history.made.length]? = some ⟨owner, name, "any"⟩ ∧
      ∀ r ∈ (start.run (es ++ .property owner name target :: fs)).history.ran,
        r.slot ≠ (start.run es).history.made.length
  reported : ∀ d ∈ (start.run es).log, d.level = .warning ∧
    ∃ r ∈ (start.run es).history.ran, ¬r.Met ∧
      d.message = r.binding.wanted ++ " not found (referenced from " ++ r.binding.owner ++ "." ++
        r.binding.name ++ ")"

theorem message_unresolved (b : PropertyBinding) :
    b.unresolved.message =
      b.wanted ++ " not found (referenced from " ++ b.owner ++ "." ++ b.name ++ ")" := by
  have hmessage := unresolvedMessage_context b.wanted b.owner b.name
  simp only [toString] at hmessage
  exact hmessage

/-- Bindings read the registry when they run, over every run of ordinary steps. -/
theorem bindings_read_when_run (es : List SessionStep) (hes : ∀ e ∈ es, e.Ordinary) :
    ReadWhenRun es where
  explained := (sound_start.run es hes).explained
  inside_drain n := by
    have h := sound_start.run es hes
    refine h.explained.perform _ h.placed fun b hb => h.mem_made_of_pending ?_
    exact ((List.take_sublist n _).filterMap _).subset hb
  placed := (sound_start.run es hes).placed
  once := (sound_start.run es hes).once_ran
  ran_made r hr :=
    (sound_start.run es hes).made _ (List.mem_append_left _ (List.mem_map_of_mem hr))
  lasting fs hfs r hr := by
    rw [run_append]
    exact (sound_start.run es hes).lasting hfs hr
  refused owner name target hrefused fs hfs := by
    have h := sound_start.run es hes
    have hnext : ((start.run es).step (.property owner name target)).Sound := h.step trivial
    have hskipped := (h.skipped_of_refused hrefused).run hnext fs hfs
    have hlast := hnext.run fs hfs
    have hrun : start.run (es ++ .property owner name target :: fs) =
        ((start.run es).step (.property owner name target)).run fs := run_append _ _ _
    rw [hrun]
    obtain ⟨bs, hbs⟩ := made_run fs ((start.run es).step (.property owner name target))
    refine ⟨hskipped.property hlast.explained hlast.placed
      (b := (start.run es).newBinding owner name target) ?_, ?_⟩
    · rw [hbs, made_step]
      simp [newBindings]
    · intro r hr
      exact hskipped.skipped _ (List.mem_append_left _ (List.mem_map_of_mem hr))
  reported d hd := by
    rw [(sound_start.run es hes).explained.reports, BindingHistory.reports] at hd
    obtain ⟨r, hr, hd⟩ := List.mem_filterMap.mp hd
    split at hd
    · cases hd
    · next hmissed =>
      obtain rfl := Option.some.inj hd
      exact ⟨rfl, r, hr, hmissed, message_unresolved r.binding⟩

/-- A drain is cut short by an action that fails, the registry changes before the next one, and a
last deferral is refused. -/
theorem bindings_read_when_run_orders :
    let pet : TypeNode := .node "Pet" []
    let es : List SessionStep :=
      [.register "Pet", .property "Order" "pets" (.arrayOf (.arrayOf pet)),
        .property "Order" "owner" (.node "Owner" []),
        .defer (.mk (.note "failing") [.once (.note "deferred")] true),
        .property "Order" "late" pet, .drain, .unregister "Pet", .register "Owner", .drain,
        .property "Order" "refused" pet, .register "Pet", .drain]
    (∀ e ∈ es, e.Ordinary) ∧
      (start.run es).session.properties =
        [⟨"Order", "pets", "Pet[][]"⟩, ⟨"Order", "owner", "any"⟩, ⟨"Order", "late", "any"⟩,
          ⟨"Order", "refused", "any"⟩] ∧
      (start.run es).log.map Diagnostic.message =
        ["Owner not found (referenced from Order.owner)",
          "Pet not found (referenced from Order.late)"] ∧
      ReadWhenRun es := by
  intro pet es
  have hes : ∀ e ∈ es, e.Ordinary := by
    simp [es, SessionStep.Ordinary, Deferred.bindings, bindingsOfAll, SessionAction.binding?,
      Deferred.once]
  exact ⟨hes, by decide +kernel, by decide +kernel, bindings_read_when_run es hes⟩

end ClientCompiler
