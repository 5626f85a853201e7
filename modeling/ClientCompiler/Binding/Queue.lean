/-!
A queue of deferred actions. Running an action may defer more actions to the end of the queue, and
may fail after that. A queue that was drained to its end takes no more actions.
-/

namespace ClientCompiler

/-- An action, the actions it defers in turn, and whether it fails in the end. -/
inductive Deferred (α : Type) where
  | mk (action : α) (next : List (Deferred α)) (fails : Bool)

namespace Deferred

variable {α : Type}

def action : Deferred α → α
  | mk a _ _ => a

def next : Deferred α → List (Deferred α)
  | mk _ ds _ => ds

def fails : Deferred α → Bool
  | mk _ _ f => f

mutual

def size : Deferred α → Nat
  | mk _ ds _ => 1 + sizeAll ds

def sizeAll : List (Deferred α) → Nat
  | [] => 0
  | d :: ds => size d + sizeAll ds

end

def once (a : α) : Deferred α := mk a [] false

@[simp] theorem sizeAll_append (ds es : List (Deferred α)) :
    sizeAll (ds ++ es) = sizeAll ds + sizeAll es := by
  induction ds with
  | nil => simp [sizeAll]
  | cons d ds ih => simp [sizeAll, ih, Nat.add_assoc]

end Deferred

structure BindingQueue (α : Type) where
  pending : List (Deferred α)
  drained : Bool

namespace BindingQueue

variable {α : Type}

def empty : BindingQueue α := ⟨[], false⟩

def length (q : BindingQueue α) : Nat := q.pending.length

def defer? (q : BindingQueue α) (d : Deferred α) : Option (BindingQueue α) :=
  if q.drained then none else some ⟨q.pending ++ [d], false⟩

def deferAll (q : BindingQueue α) : List (Deferred α) → BindingQueue α × Bool
  | [] => (q, true)
  | d :: ds =>
    match q.defer? d with
    | some q => q.deferAll ds
    | none => (q, false)

structure DrainRun (α : Type) where
  ran : List (Deferred α)
  queue : BindingQueue α
  failed : Bool

namespace DrainRun

def actions (r : DrainRun α) : List α := r.ran.map (·.action)

end DrainRun

/-- Runs from the front until nothing is left or an action fails. An action is off the queue before
it runs, and a queue is closed only at the end. The fuel exceeds the number of actions that are
run. -/
def runPending : Nat → BindingQueue α → DrainRun α
  | 0, q => ⟨[], q, false⟩
  | fuel + 1, q =>
    match q.pending with
    | [] => ⟨[], { q with drained := true }, false⟩
    | d :: ds =>
      let (q, accepted) := { q with pending := ds }.deferAll d.next
      if d.fails || !accepted then ⟨[d], q, true⟩
      else
        let r := runPending fuel q
        { r with ran := d :: r.ran }

def drainRun (q : BindingQueue α) : DrainRun α :=
  runPending (Deferred.sizeAll q.pending + 1) q

theorem defer?_eq_none_iff (q : BindingQueue α) (d : Deferred α) :
    q.defer? d = none ↔ q.drained = true := by
  simp [defer?]

@[simp] theorem defer?_open (ds : List (Deferred α)) (d : Deferred α) :
    defer? ⟨ds, false⟩ d = some ⟨ds ++ [d], false⟩ := rfl

@[simp] theorem deferAll_open (ds es : List (Deferred α)) :
    deferAll ⟨ds, false⟩ es = (⟨ds ++ es, false⟩, true) := by
  induction es generalizing ds with
  | nil => simp [deferAll]
  | cons e es ih => simp [deferAll, ih]

theorem runPending_fails (fuel : Nat) (d : Deferred α) (ds : List (Deferred α))
    (h : d.fails = true) :
    runPending (fuel + 1) ⟨d :: ds, false⟩ = ⟨[d], ⟨ds ++ d.next, false⟩, true⟩ := by
  simp [runPending, h]

theorem runPending_succeeds (fuel : Nat) (d : Deferred α) (ds : List (Deferred α))
    (h : d.fails = false) :
    runPending (fuel + 1) ⟨d :: ds, false⟩ =
      { runPending fuel ⟨ds ++ d.next, false⟩ with
        ran := d :: (runPending fuel ⟨ds ++ d.next, false⟩).ran } := by
  simp [runPending, h]

end BindingQueue
end ClientCompiler
