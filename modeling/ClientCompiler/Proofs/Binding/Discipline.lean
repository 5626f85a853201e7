import ClientCompiler.Binding.Queue
import Mathlib.Data.List.Infix

/-!
The discipline of a queue of deferred actions over whole runs, one step at a time. A deferral goes
through `defer?` whether the owner of the queue makes it or an action that a drain runs; what was
accepted and what was taken off the queue are read off the events of a run, so that the queue
keeps no history of its own.
-/

namespace ClientCompiler.BindingQueue

variable {α : Type}

/-- Between two calls, in the loop of a drain, or inside an action with deferrals ahead of it. The
count is of the actions that this drain has completed. -/
inductive Phase (α : Type) where
  | idle
  | draining (count : Nat)
  | running (d : Deferred α) (ahead : List (Deferred α)) (count : Nat)

structure Work (α : Type) where
  queue : BindingQueue α
  phase : Phase α

inductive Event (α : Type) where
  | accept (d : Deferred α)
  | refuse (d : Deferred α)
  | begin
  | take (d : Deferred α)
  | complete (d : Deferred α)
  | raise (d : Deferred α)
  | finish (count : Nat)

/-- A refused deferral raises inside the action that makes it, and what raises there ends the
drain. No guard mentions the history or keeps a running action from being refused. -/
inductive Step : Work α → Event α → Work α → Prop where
  | accept (q r d) (h : q.defer? d = some r) : Step ⟨q, .idle⟩ (.accept d) ⟨r, .idle⟩
  | refuse (q d) (h : q.defer? d = none) : Step ⟨q, .idle⟩ (.refuse d) ⟨q, .idle⟩
  | begin (q) : Step ⟨q, .idle⟩ .begin ⟨q, .draining 0⟩
  | take (q d ds n) (h : q.pending = d :: ds) :
      Step ⟨q, .draining n⟩ (.take d) ⟨{ q with pending := ds }, .running d d.next n⟩
  | acceptInside (q r d e es n) (h : q.defer? e = some r) :
      Step ⟨q, .running d (e :: es) n⟩ (.accept e) ⟨r, .running d es n⟩
  | refuseInside (q d e es n) (h : q.defer? e = none) :
      Step ⟨q, .running d (e :: es) n⟩ (.refuse e) ⟨q, .idle⟩
  | raise (q d n) (h : d.fails = true) : Step ⟨q, .running d [] n⟩ (.raise d) ⟨q, .idle⟩
  | complete (q d n) (h : d.fails = false) :
      Step ⟨q, .running d [] n⟩ (.complete d) ⟨q, .draining (n + 1)⟩
  | finish (q n) (h : q.pending = []) :
      Step ⟨q, .draining n⟩ (.finish n) ⟨{ q with drained := true }, .idle⟩

inductive Execution : Work α → List (Event α) → Work α → Prop where
  | nil (s) : Execution s [] s
  | cons {s e t es u} : Step s e t → Execution t es u → Execution s (e :: es) u

/-- A stretch of one drain: no step of it starts between two calls. -/
inductive Inside : Work α → List (Event α) → Work α → Prop where
  | nil (s) : Inside s [] s
  | cons {s e t es u} : s.phase ≠ .idle → Step s e t → Inside t es u → Inside s (e :: es) u

def start : Work α := ⟨empty, .idle⟩

def Event.accepted? : Event α → Option (Deferred α)
  | .accept d => some d
  | _ => none

def Event.taken? : Event α → Option (Deferred α)
  | .take d => some d
  | _ => none

def accepted (es : List (Event α)) : List (Deferred α) := es.filterMap Event.accepted?

def taken (es : List (Event α)) : List (Deferred α) := es.filterMap Event.taken?

theorem accepted_append (es fs : List (Event α)) :
    accepted (es ++ fs) = accepted es ++ accepted fs := List.filterMap_append

theorem taken_append (es fs : List (Event α)) : taken (es ++ fs) = taken es ++ taken fs :=
  List.filterMap_append

theorem accepted_cons (e : Event α) (es : List (Event α)) :
    accepted (e :: es) = e.accepted?.toList ++ accepted es := by
  unfold accepted
  cases h : e.accepted? <;> simp [h]

theorem taken_cons (e : Event α) (es : List (Event α)) :
    taken (e :: es) = e.taken?.toList ++ taken es := by
  unfold taken
  cases h : e.taken? <;> simp [h]

structure Invariant (past : List (Event α)) (s : Work α) : Prop where
  fifo : accepted past = taken past ++ s.queue.pending
  closed_empty : s.queue.drained = true → s.queue.pending = []
  closed_phase : s.queue.drained = true → s.phase = .idle ∨ s.phase = .draining 0

theorem eq_of_defer? {q r : BindingQueue α} {d : Deferred α} (h : q.defer? d = some r) :
    q.drained = false ∧ r = ⟨q.pending ++ [d], false⟩ := by
  cases hq : q.drained with
  | true => simp [defer?, hq] at h
  | false => exact ⟨rfl, by simpa [defer?, hq] using h.symm⟩

theorem start_invariant : Invariant [] (start : Work α) := by
  constructor <;> simp [start, empty, accepted, taken]

/-- A step appends what it accepts and removes what it takes from the front. -/
theorem step_pending {s t : Work α} {e : Event α} (h : Step s e t) :
    s.queue.pending ++ e.accepted?.toList = e.taken?.toList ++ t.queue.pending := by
  cases h with
  | accept q r d h | acceptInside q r _ d _ _ h =>
    obtain ⟨_, rfl⟩ := eq_of_defer? h
    rfl
  | take q d ds n h => simp [h, Event.accepted?, Event.taken?]
  | _ => simp [Event.accepted?, Event.taken?]

theorem step_preserves_invariant {past : List (Event α)} {s t : Work α} {e : Event α}
    (h : Step s e t) (hs : Invariant past s) : Invariant (past ++ [e]) t := by
  have fifo : accepted (past ++ [e]) = taken (past ++ [e]) ++ t.queue.pending := by
    have ha : accepted [e] = e.accepted?.toList := by rw [accepted_cons]; exact List.append_nil _
    have ht : taken [e] = e.taken?.toList := by rw [taken_cons]; exact List.append_nil _
    rw [accepted_append, taken_append, ha, ht, hs.fifo, List.append_assoc, step_pending h,
      List.append_assoc]
  have he := hs.closed_empty
  have hp := hs.closed_phase
  refine ⟨fifo, ?_, ?_⟩
  · cases h with
    | accept q r d h | acceptInside q r _ d _ _ h =>
      obtain ⟨_, rfl⟩ := eq_of_defer? h
      simp
    | take q d ds n h =>
      intro hd
      exact absurd (h.symm.trans (he hd)) (by simp)
    | finish q n h => exact fun _ => h
    | _ => exact he
  · cases h with
    | accept q r d h | acceptInside q r _ d _ _ h =>
      obtain ⟨_, rfl⟩ := eq_of_defer? h
      simp
    | take q d ds n h =>
      intro hd
      exact absurd (h.symm.trans (he hd)) (by simp)
    | begin q => exact fun _ => Or.inr rfl
    | complete q d n h => exact fun hd => absurd (hp hd) (by simp)
    | _ => exact fun _ => Or.inl rfl

theorem execution_preserves_invariant {past es : List (Event α)} {s t : Work α}
    (h : Execution s es t) (hs : Invariant past s) : Invariant (past ++ es) t := by
  induction h generalizing past with
  | nil => simpa using hs
  | cons h _ ih => simpa using ih (step_preserves_invariant h hs)

theorem reachable_invariant {es : List (Event α)} {s : Work α} (h : Execution start es s) :
    Invariant es s := by
  simpa using execution_preserves_invariant h start_invariant

theorem Execution.append {es fs : List (Event α)} {s t u : Work α}
    (h : Execution s es t) (k : Execution t fs u) : Execution s (es ++ fs) u := by
  induction h with
  | nil => exact k
  | cons h _ ih => exact .cons h (ih k)

theorem Inside.append {es fs : List (Event α)} {s t u : Work α}
    (h : Inside s es t) (k : Inside t fs u) : Inside s (es ++ fs) u := by
  induction h with
  | nil => exact k
  | cons hp h _ ih => exact .cons hp h (ih k)

theorem Inside.execution {es : List (Event α)} {s t : Work α} (h : Inside s es t) :
    Execution s es t := by
  induction h with
  | nil s => exact .nil s
  | cons _ h _ ih => exact .cons h ih

/-- Inside a drain nothing is left to choose. -/
theorem Step.unique {s t u : Work α} {e f : Event α} (hp : s.phase ≠ .idle)
    (h : Step s e t) (k : Step s f u) : e = f ∧ t = u := by
  cases h with
  | accept | refuse | begin => exact absurd rfl hp
  | _ => cases k <;> simp_all

theorem Inside.prefix_of_idle {es fs : List (Event α)} {s t u : Work α}
    (h : Inside s es t) (ht : t.phase = .idle) (k : Inside s fs u) : fs <+: es := by
  induction h generalizing fs u with
  | nil s =>
    cases k with
    | nil => exact List.prefix_refl _
    | cons hp _ _ => exact absurd ht hp
  | cons hp h _ ih =>
    cases k with
    | nil => exact List.nil_prefix
    | cons _ hk kt =>
      obtain ⟨rfl, rfl⟩ := Step.unique hp h hk
      exact List.cons_prefix_cons.mpr ⟨rfl, ih ht kt⟩

theorem inside_deferrals (d : Deferred α) (ahead ds : List (Deferred α)) (n : Nat) :
    Inside ⟨⟨ds, false⟩, .running d ahead n⟩ (ahead.map Event.accept)
      ⟨⟨ds ++ ahead, false⟩, .running d [] n⟩ := by
  induction ahead generalizing ds with
  | nil => simpa using Inside.nil _
  | cons e es ih =>
    have hs := ih (ds ++ [e])
    rw [List.append_assoc] at hs
    exact .cons (by simp) (.acceptInside _ _ d e es n (defer?_open ds e)) hs

theorem taken_accepts (ds : List (Deferred α)) : taken (ds.map Event.accept) = [] := by
  induction ds with
  | nil => rfl
  | cons d ds ih => exact ih

/-- How a drain ends: it has reached the end of the queue and gives the number of actions it ran,
or the last action that it ran raises. -/
inductive Outcome (n : Nat) (es : List (Event α)) (r : DrainRun α) : Prop where
  | returned (hf : r.failed = false) (hq : r.queue = ⟨[], true⟩)
      (hl : es.getLast? = some (.finish (n + r.ran.length)))
  | cut (before : List (Deferred α)) (d : Deferred α) (hf : r.failed = true)
      (hr : r.ran = before ++ [d]) (hb : ∀ b ∈ before, b.fails = false) (hd : d.fails = true)
      (hq : r.queue.drained = false) (hl : es.getLast? = some (.raise d))

theorem Outcome.after_success {n : Nat} {es : List (Event α)} {r : DrainRun α}
    (h : Outcome (n + 1) es r) (before : List (Event α)) {d : Deferred α}
    (hd : d.fails = false) : Outcome n (before ++ es) { r with ran := d :: r.ran } := by
  cases h with
  | returned hf hq hl =>
    refine .returned hf hq ?_
    rw [List.getLast?_append, hl, Option.some_or, List.length_cons]
    congr 2
    omega
  | cut bs b hf hr hb hbf hq hl =>
    refine .cut (d :: bs) b hf (by simp [hr]) ?_ hbf hq ?_
    · intro x hx
      rcases List.mem_cons.mp hx with rfl | hx
      · exact hd
      · exact hb x hx
    · rw [List.getLast?_append, hl, Option.some_or]

/-- The steps of a drain end where `runPending` says. The induction is on the fuel, which an action
and all that it leads to use up one by one. -/
theorem inside_runPending (fuel : Nat) (ds : List (Deferred α)) (n : Nat)
    (hsize : Deferred.sizeAll ds < fuel) :
    ∃ es, Inside ⟨⟨ds, false⟩, .draining n⟩ es ⟨(runPending fuel ⟨ds, false⟩).queue, .idle⟩ ∧
      taken es = (runPending fuel ⟨ds, false⟩).ran ∧
      Outcome n es (runPending fuel ⟨ds, false⟩) := by
  induction fuel generalizing ds n with
  | zero => omega
  | succ fuel ih =>
    cases ds with
    | nil =>
      refine ⟨[.finish n], .cons (by simp) (.finish _ n rfl) (.nil _), rfl, ?_⟩
      exact .returned rfl rfl rfl
    | cons d ds =>
      have htake : Step ⟨⟨d :: ds, false⟩, .draining n⟩ (.take d)
          ⟨⟨ds, false⟩, .running d d.next n⟩ := .take _ d ds n rfl
      have hdefer := inside_deferrals d d.next ds n
      have hd : Deferred.sizeAll (ds ++ d.next) < fuel := by
        have hs : d.size = 1 + Deferred.sizeAll d.next := by
          cases d
          rfl
        rw [Deferred.sizeAll, hs] at hsize
        rw [Deferred.sizeAll_append]
        omega
      cases hf : d.fails with
      | true =>
        refine ⟨.take d :: (d.next.map Event.accept ++ [.raise d]), ?_, ?_, ?_⟩
        · rw [runPending_fails fuel d ds hf]
          exact .cons (by simp) htake
            (hdefer.append (.cons (by simp) (.raise _ d n hf) (.nil _)))
        · rw [runPending_fails fuel d ds hf]
          rw [taken_cons, taken_append, taken_accepts]
          rfl
        · rw [runPending_fails fuel d ds hf]
          refine .cut [] d rfl rfl (by simp) hf rfl ?_
          rw [← List.cons_append, List.getLast?_concat]
      | false =>
        obtain ⟨es, hin, htaken, hout⟩ := ih (ds ++ d.next) (n + 1) hd
        refine ⟨.take d :: (d.next.map Event.accept ++ .complete d :: es), ?_, ?_, ?_⟩
        · rw [runPending_succeeds fuel d ds hf]
          exact .cons (by simp) htake
            (hdefer.append (.cons (by simp) (.complete _ d n hf) hin))
        · rw [runPending_succeeds fuel d ds hf]
          rw [taken_cons, taken_append, taken_accepts, taken_cons, htaken]
          rfl
        · rw [runPending_succeeds fuel d ds hf]
          have ho := hout.after_success (.take d :: (d.next.map Event.accept ++ [.complete d])) hf
          simpa using ho

/-- A drain has one course, which ends where `drainRun` says. A queue that was drained before has
nothing pending. -/
theorem inside_drainRun {q : BindingQueue α} (hq : q.drained = true → q.pending = []) :
    ∃ es, Inside ⟨q, .draining 0⟩ es ⟨q.drainRun.queue, .idle⟩ ∧ taken es = q.drainRun.ran ∧
      Outcome 0 es q.drainRun := by
  obtain ⟨ds, b⟩ := q
  cases b with
  | false => exact inside_runPending _ ds 0 (Nat.lt_succ_self _)
  | true =>
    obtain rfl : ds = [] := hq rfl
    refine ⟨[.finish 0], .cons (by simp) (.finish _ 0 rfl) (.nil _), rfl, ?_⟩
    exact .returned rfl rfl rfl

structure Closed (s : Work α) : Prop where
  queue : s.queue = ⟨[], true⟩
  phase : s.phase = .idle ∨ s.phase = .draining 0

theorem step_preserves_closed {s t : Work α} {e : Event α} (h : Step s e t) (hs : Closed s) :
    Closed t ∧ e.accepted? = none ∧ e.taken? = none ∧ ∀ n, e = .finish n → n = 0 := by
  rcases hs with ⟨hq, hp⟩
  cases h with
  | accept q r d h | acceptInside q r _ d _ _ h =>
    obtain rfl : q = ⟨[], true⟩ := hq
    cases h
  | refuse q d h => exact ⟨⟨hq, Or.inl rfl⟩, rfl, rfl, by simp⟩
  | begin q => exact ⟨⟨hq, Or.inr rfl⟩, rfl, rfl, by simp⟩
  | take q d ds n h =>
    obtain rfl : q = ⟨[], true⟩ := hq
    cases h
  | refuseInside | raise | complete => simp at hp
  | finish q n h =>
    obtain rfl : q = ⟨[], true⟩ := hq
    obtain rfl : n = 0 := by simpa using hp
    exact ⟨⟨rfl, Or.inl rfl⟩, rfl, rfl, by simp⟩

theorem execution_of_closed {s t : Work α} {es : List (Event α)} (h : Execution s es t)
    (hs : Closed s) :
    Closed t ∧ accepted es = [] ∧ taken es = [] ∧ ∀ n, .finish n ∈ es → n = 0 := by
  induction h with
  | nil => exact ⟨hs, rfl, rfl, by simp⟩
  | cons h _ ih =>
    obtain ⟨ht, ha, hk, hn⟩ := step_preserves_closed h hs
    obtain ⟨hu, has, hks, hns⟩ := ih ht
    refine ⟨hu, ?_, ?_, ?_⟩
    · rw [accepted_cons, ha, has]; rfl
    · rw [taken_cons, hk, hks]; rfl
    · intro n hm
      rcases List.mem_cons.mp hm with he | hm
      · exact hn n he.symm
      · exact hns n hm

/-- The discipline of a queue over every run that starts from an empty one. -/
structure Disciplined (α : Type) : Prop where
  /-- What was accepted is what was run, followed by what is pending, at every point. -/
  fifo : ∀ (past : List (Event α)) s, Execution start past s →
    accepted past = taken past ++ s.queue.pending
  drained_empty : ∀ (past : List (Event α)) s, Execution start past s →
    s.queue.drained = true → s.queue.pending = []
  refused_iff : ∀ (q : BindingQueue α) d, q.defer? d = none ↔ q.drained = true
  refused_frame : ∀ (s t : Work α) d, Step s (.refuse d) t → t.queue = s.queue
  /-- A drain ends as `drainRun` says, and no other course is open to it. -/
  drain_course : ∀ (past : List (Event α)) s, Execution start past s → s.phase = .idle →
    ∃ es, Inside ⟨s.queue, .draining 0⟩ es ⟨s.queue.drainRun.queue, .idle⟩ ∧
      taken es = s.queue.drainRun.ran ∧ Outcome 0 es s.queue.drainRun ∧
      (∀ fs t, Inside ⟨s.queue, .draining 0⟩ fs t → fs <+: es) ∧
      accepted (past ++ .begin :: es) =
        taken (past ++ .begin :: es) ++ s.queue.drainRun.queue.pending
  /-- An action that a drain runs is never refused a deferral. -/
  never_refused : ∀ (past : List (Event α)) s t d, Execution start past s →
    Step s (.refuse d) t → s.phase = .idle
  /-- Nothing happens to a queue that was drained, and every later drain gives zero. -/
  after_completion : ∀ (past : List (Event α)) s, Execution start past s →
    s.queue.drained = true → s.queue.drainRun = ⟨[], s.queue, false⟩ ∧
      ∀ es t, Execution s es t → t.queue = s.queue ∧ accepted es = [] ∧ taken es = [] ∧
        ∀ n, .finish n ∈ es → n = 0

theorem queue_discipline (α : Type) : Disciplined α where
  fifo past s h := (reachable_invariant h).fifo
  drained_empty past s h := (reachable_invariant h).closed_empty
  refused_iff := defer?_eq_none_iff
  refused_frame s t d h := by cases h <;> rfl
  drain_course past s h hp := by
    have hi := reachable_invariant h
    obtain ⟨es, hin, htaken, hout⟩ := inside_drainRun hi.closed_empty
    refine ⟨es, hin, htaken, hout, fun fs t k => hin.prefix_of_idle rfl k, ?_⟩
    obtain ⟨q, p⟩ := s
    obtain rfl : p = .idle := hp
    exact (reachable_invariant (h.append (.cons (.begin q) hin.execution))).fifo
  never_refused past s t d h k := by
    have hi := reachable_invariant h
    cases k with
    | refuse => rfl
    | refuseInside q c e es n hr =>
      have hd := (defer?_eq_none_iff _ _).mp hr
      simpa using hi.closed_phase hd
  after_completion past s h hd := by
    have hi := reachable_invariant h
    have hq : s.queue = ⟨[], true⟩ := by
      obtain ⟨⟨ds, b⟩, p⟩ := s
      obtain rfl : b = true := hd
      obtain rfl : ds = [] := hi.closed_empty rfl
      rfl
    refine ⟨by rw [hq]; rfl, fun es t k => ?_⟩
    obtain ⟨ht, ha, hk, hn⟩ := execution_of_closed k ⟨hq, hi.closed_phase hd⟩
    exact ⟨ht.queue.trans hq.symm, ha, hk, hn⟩

/-- What an action defers runs after all that waits, and in the same drain. -/
example : (drainRun ⟨[.mk 1 [.once 3] false, .once 2], false⟩).actions = [1, 2, 3] := by decide

end ClientCompiler.BindingQueue
