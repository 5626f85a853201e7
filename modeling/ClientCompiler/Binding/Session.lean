import ClientCompiler.Binding.Queue
import ClientCompiler.Document.Reference

/-!
Binding properties to the models they refer to. A property gets its type when its binding runs,
if the registry holds the referenced model at that moment; otherwise it keeps `any` and the
reference is reported.
-/

namespace ClientCompiler

structure PropertyBinding where
  slot : Nat
  owner : String
  name : String
  target : TypeNode

namespace PropertyBinding

/-- The model that has to be registered: for an array, the one of its innermost element. -/
def wanted (b : PropertyBinding) : String := b.target.innermost.name

def unresolved (b : PropertyBinding) : Diagnostic :=
  .unresolved b.wanted (some (b.owner ++ "." ++ b.name))

def run (registry : List String) (types : List String) (b : PropertyBinding) :
    List String × List Diagnostic :=
  if registry.contains b.wanted then (types.set b.slot b.target.text, [])
  else (types, [b.unresolved])

end PropertyBinding

def runBindings (registry : List String) (types : List String) :
    List PropertyBinding → List String × List Diagnostic
  | [] => (types, [])
  | b :: bs =>
    let (types, log) := b.run registry types
    let (types, log') := runBindings registry types bs
    (types, log ++ log')

inductive SessionAction where
  | note (label : String)
  | bind (b : PropertyBinding)

structure SessionProperty where
  owner : String
  name : String
  type : String
  deriving DecidableEq, Repr

structure BindingSession where
  queue : BindingQueue SessionAction
  registry : List String
  properties : List SessionProperty
  noted : List String

inductive SessionStep where
  | new
  | defer (d : Deferred SessionAction)
  | register (name : String)
  | unregister (name : String)
  | property (owner name : String) (target : TypeNode)
  | bindNow (owner name : String) (target : TypeNode)
  | drain

namespace BindingSession

def start : BindingSession := ⟨.empty, [], [], []⟩

def perform (s : BindingSession) : SessionAction → BindingSession × List Diagnostic
  | .note label => ({ s with noted := s.noted ++ [label] }, [])
  | .bind b =>
    if s.registry.contains b.wanted then
      ({ s with properties := s.properties.modify b.slot fun p => { p with type := b.target.text } }, [])
    else (s, [b.unresolved])

def performAll (s : BindingSession) : List SessionAction → BindingSession × List Diagnostic
  | [] => (s, [])
  | a :: as =>
    let (s, log) := s.perform a
    let (s, log') := s.performAll as
    (s, log ++ log')

def addProperty (s : BindingSession) (owner name : String) (target : TypeNode) :
    BindingSession × PropertyBinding :=
  ({ s with properties := s.properties ++ [⟨owner, name, "any"⟩] },
    ⟨s.properties.length, owner, name, target⟩)

def defer (s : BindingSession) (d : Deferred SessionAction) :
    BindingSession × Except Fault (Option Nat) × List Diagnostic :=
  match s.queue.defer? d with
  | some q => ({ s with queue := q }, .ok none, [])
  | none => (s, .error .queueClosed, [])

/-- One step: the session after it, its answer (the number of actions run, for a drain), and what
was reported. -/
def step (s : BindingSession) : SessionStep → BindingSession × Except Fault (Option Nat) × List Diagnostic
  | .new => ({ s with queue := .empty }, .ok none, [])
  | .defer d => s.defer d
  | .register name =>
    ({ s with registry := if s.registry.contains name then s.registry else s.registry ++ [name] },
      .ok none, [])
  | .unregister name => ({ s with registry := s.registry.filter (· ≠ name) }, .ok none, [])
  | .property owner name target =>
    let (s, b) := s.addProperty owner name target
    s.defer (.once (.bind b))
  | .bindNow owner name target =>
    let (s, b) := s.addProperty owner name target
    let (s, log) := s.perform (.bind b)
    (s, .ok none, log)
  | .drain =>
    let r := s.queue.drainRun
    let (s, log) := s.performAll r.actions
    ({ s with queue := r.queue }, if r.failed then .error .bindingFailed else .ok (some r.ran.length), log)

end BindingSession
end ClientCompiler
