import ClientCompiler.Fault

/-!
Diagnostics, and computations that may fail and keep a log of diagnostics in either case.
-/

namespace ClientCompiler

inductive Level where
  | debug
  | info
  | warning
  | error
  | critical
  deriving DecidableEq, Repr

def Level.rank : Level → Nat
  | .debug => 10
  | .info => 20
  | .warning => 30
  | .error => 40
  | .critical => 50

def Level.name : Level → String
  | .debug => "DEBUG"
  | .info => "INFO"
  | .warning => "WARNING"
  | .error => "ERROR"
  | .critical => "CRITICAL"

inductive Diagnostic where
  | definitionSkipped (key name : String)
  | modelsRegistered (models references : Nat)
  | unresolved (name : String) (context : Option String)
  | formatterMissing
  | formatRejected (path reason : String)
  deriving DecidableEq, Repr

namespace Diagnostic

def level : Diagnostic → Level
  | .definitionSkipped .. => .debug
  | .modelsRegistered .. => .debug
  | .unresolved .. => .warning
  | .formatterMissing => .debug
  | .formatRejected .. => .error

/-- The message for a name that is not registered; an empty context is left out. -/
def unresolvedMessage (name : String) (context : Option String) : String :=
  match context with
  | none => s!"{name} not found"
  | some c => if c.isEmpty then s!"{name} not found" else s!"{name} not found (referenced from {c})"

def message : Diagnostic → String
  | .definitionSkipped key name => s!"Skipping definition '{key}': '{name}' already registered"
  | .modelsRegistered models references =>
    s!"Registered {models} models, bound {references} references"
  | .unresolved name context => unresolvedMessage name context
  | .formatterMissing => "prettier not found on PATH, leaving output unformatted"
  | .formatRejected path reason => s!"format error: {path}: {reason}"

end Diagnostic

/-- A result or a fault, with the diagnostics that were logged before it. -/
structure Traced (α : Type) where
  result : Except Fault α
  log : List Diagnostic

namespace Traced

variable {α β : Type}

def pure (a : α) : Traced α := ⟨.ok a, []⟩

def bind (x : Traced α) (f : α → Traced β) : Traced β :=
  match x.result with
  | .ok a => ⟨(f a).result, x.log ++ (f a).log⟩
  | .error e => ⟨.error e, x.log⟩

instance : Monad Traced where
  pure := Traced.pure
  bind := Traced.bind

def fail (e : Fault) : Traced α := ⟨.error e, []⟩

def emit (d : Diagnostic) : Traced Unit := ⟨.ok (), [d]⟩

def lift (x : Except Fault α) : Traced α := ⟨x, []⟩

instance : MonadLift (Except Fault) Traced := ⟨lift⟩

def each (f : α → Traced β) : List α → Traced (List β)
  | [] => pure []
  | a :: as => bind (f a) fun b => bind (each f as) fun bs => pure (b :: bs)

@[simp] theorem bind_eq (x : Traced α) (f : α → Traced β) : x >>= f = x.bind f := rfl

@[simp] theorem pure_eq (a : α) : (Pure.pure a : Traced α) = Traced.pure a := rfl

@[simp] theorem pure_bind (a : α) (f : α → Traced β) : (pure a).bind f = f a := by
  simp [pure, bind]

@[simp] theorem bind_pure (x : Traced α) : x.bind pure = x := by
  obtain ⟨r, log⟩ := x
  cases r <;> simp [pure, bind]

theorem bind_assoc {γ : Type} (x : Traced α) (f : α → Traced β) (g : β → Traced γ) :
    (x.bind f).bind g = x.bind fun a => (f a).bind g := by
  obtain ⟨r, log⟩ := x
  cases r with
  | error e => rfl
  | ok a =>
    simp only [bind]
    cases (f a).result <;> simp

@[simp] theorem log_lift (x : Except Fault α) : (lift x).log = [] := rfl

@[simp] theorem result_lift (x : Except Fault α) : (lift x).result = x := rfl

end Traced
end ClientCompiler
