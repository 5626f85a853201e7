import ClientCompiler.Binding.Session
import ClientCompiler.Client.Basic
import ClientCompiler.Document.Schema

/-!
Models from definitions. All definitions are registered first; the properties that refer to other
models are bound after that, so that the order of definitions does not matter to their types.
-/

namespace ClientCompiler

/-- A property whose type stands in a slot of the table of types. -/
structure PropertyDraft where
  name : String
  required : Bool
  description : Option String
  slot : Nat

structure ModelDraft where
  name : String
  title : Option String
  generics : List String
  properties : List PropertyDraft

structure Registration where
  drafts : List ModelDraft
  types : List String
  queue : BindingQueue PropertyBinding

namespace Registration

def empty : Registration := ⟨[], [], .empty⟩

def names (r : Registration) : List String := r.drafts.map (·.name)

/-- Gives a property its slot: with its type, or with `any` and a binding that waits. -/
def addProperty (table : TypeTable) (owner : String) (required : List Value) (r : Registration)
    (name schema : Value) : Except Fault (Registration × PropertyDraft) := do
  let kvs := match schema with
    | .map kvs => kvs
    | _ => []
  let description := Value.fieldD "description" kvs
  Shape.accept (Shape.textAt "name" name ++ Shape.optionalTextAt "description" description)
  let draft : PropertyDraft :=
    ⟨Shape.textD name, required.any (·.same name), Shape.text? description, r.types.length⟩
  match ← Schema.referenceTarget? table (Schema.chain kvs) with
  | some target =>
    match r.queue.defer? (.once ⟨r.types.length, owner, draft.name, target⟩) with
    | some queue => return ({ r with types := r.types ++ ["any"], queue }, draft)
    | none => throw .queueClosed
  | none =>
    let node ← Schema.inlineType table (Schema.chain kvs)
    return ({ r with types := r.types ++ [node.text] }, draft)

def addProperties (table : TypeTable) (owner : String) (required : List Value) (r : Registration) :
    Value.Entries → Except Fault (Registration × List PropertyDraft)
  | [] => .ok (r, [])
  | (name, schema) :: kvs => do
    let (r, p) ← addProperty table owner required r name schema
    let (r, ps) ← addProperties table owner required r kvs
    return (r, p :: ps)

def addModel (table : TypeTable) (r : Registration) (node : TypeNode) (definition : Value.Entries) :
    Except Fault Registration := do
  let title := Value.fieldD "title" definition
  Shape.accept (Shape.optionalTextAt "title" title)
  let required ← Shape.members (Shape.orEmptyList (Value.fieldD "required" definition))
  let properties ← Shape.entries (Shape.orEmptyMap (Value.fieldD "properties" definition))
  let (r, ps) ← addProperties table node.name required r properties
  let draft : ModelDraft := ⟨node.name, Shape.text? title, node.generics.map (·.name), ps⟩
  return { r with drafts := r.drafts ++ [draft] }

/-- Registers one definition, unless it is not an object or its name is taken. -/
def addDefinition (table : TypeTable) (r : Registration) (key definition : Value) :
    Traced Registration :=
  match definition with
  | .map kvs => do
    let node ← Traced.lift (TypeNode.ofValue table key)
    if r.names.contains node.name then
      Traced.emit (.definitionSkipped key.textString node.name)
      return r
    else Traced.lift (addModel table r node kvs)
  | _ => pure r

def addAll (table : TypeTable) (r : Registration) : Value.Entries → Traced Registration
  | [] => pure r
  | (key, definition) :: kvs => do
    let r ← addDefinition table r key definition
    addAll table r kvs

def models (r : Registration) (types : List String) : List Model :=
  r.drafts.map fun d =>
    ⟨d.name, d.title, d.generics, d.properties.map fun p =>
      ⟨p.name, (types[p.slot]?).getD "any", p.required, p.description⟩⟩

def finish (r : Registration) : Traced (List Model) :=
  let bindings := r.queue.drainRun.actions
  let (types, log) := runBindings r.names r.types bindings
  ⟨.ok (r.models types), log ++ [.modelsRegistered r.drafts.length bindings.length]⟩

end Registration

def modelsOf (table : TypeTable) (definitions : Value) : Traced (List Model) := do
  let kvs ← Traced.lift (Shape.entries definitions)
  let r ← Registration.addAll table .empty kvs
  r.finish

end ClientCompiler
