import ClientCompiler.Client.Basic
import ClientCompiler.Document.Schema

/-!
Parameters of operations: shared ones are looked up, those of an operation replace those of its
path that have the same name and location.
-/

namespace ClientCompiler.Parameters

/-- The parameter that a value stands for. A reference to a shared parameter that is not an object
is reported and stands for an empty one. -/
def dereference (shared : Value) (param : Value) : Traced Value.Entries :=
  match param with
  | .map kvs =>
    match Value.fieldD "$ref" kvs with
    | .str ref =>
      match Text.dropPrefix? Reference.parameterPrefix.toList ref.toList with
      | some name => do
        let known ← Traced.lift (Shape.entries shared)
        match Value.fieldD (String.ofList name) known with
        | .map target => return target
        | _ =>
          Traced.emit (.unresolved ref (some "parameters"))
          return []
      | none => pure kvs
    | _ => pure kvs
  | _ => pure []

structure Key where
  name : Value
  location : Value

namespace Key

def ofEntries (kvs : Value.Entries) : Key :=
  ⟨(Value.field "name" kvs).getD (.str ""), (Value.field "in" kvs).getD (.str "")⟩

def hashable (k : Key) : Bool := k.name.hashable && k.location.hashable

def same (k l : Key) : Bool := k.name.same l.name && k.location.same l.location

end Key

/-- The parameters of the path without those that the operation replaces, then those of the
operation; empty ones are dropped. -/
def mergeKeyed (path operation : List Value.Entries) : List Value.Entries :=
  let own := operation.filter fun p => !p.isEmpty
  let replaced (p : Value.Entries) : Bool := own.any fun q => (Key.ofEntries q).same (Key.ofEntries p)
  (path.filter fun p => !p.isEmpty && !replaced p) ++ own

/-- Merging is refused when a name or a location cannot be a key. -/
def merge (path operation : List Value.Entries) : Except Fault (List Value.Entries) :=
  if (operation ++ path).all fun p => p.isEmpty || (Key.ofEntries p).hashable then
    .ok (mergeKeyed path operation)
  else .error .unfit

/-- Where a parameter says that it is sent: in the query if it says nothing. -/
def location? (param : Value.Entries) : Option Location :=
  match Value.field "in" param with
  | none => some .query
  | some (.str s) => Location.ofName? s
  | some _ => none

/-- The schema of a parameter: its own `type` and `items`, and over them the fields of a nested
schema. -/
def schema (param : Value.Entries) : Value.Entries :=
  let own (name : String) : Value.Entries :=
    match Value.field name param with
    | some v => [(.str name, v)]
    | none => []
  let base := own "type" ++ own "items"
  match Value.fieldD "schema" param with
  | .map nested => nested.foldl (fun kvs kv => Value.insert kv.1 kv.2 kvs) base
  | _ => base

/-- A parameter with the types it imports; none if its location is unknown. -/
def extract (table : TypeTable) (registry : List String) (context : String) (param : Value.Entries) :
    Traced (Option (Parameter × List String)) :=
  match location? param with
  | none => pure none
  | some location => do
    let node ← Schema.fieldType table registry (some context) (Schema.chain (schema param))
    let name := (Value.field "name" param).getD (.str "")
    Traced.lift (Shape.accept (Shape.textAt "name" name))
    let required := (Value.fieldD "required" param).truthy || location == .path
    return some (⟨Shape.textD name, location, node.text, required⟩, node.externalTypes table)

def extractAll (table : TypeTable) (registry : List String) (context : String) :
    List Value.Entries → Traced (List Parameter × List String)
  | [] => pure ([], [])
  | p :: ps => do
    let first ← extract table registry context p
    let (params, imports) ← extractAll table registry context ps
    match first with
    | some (q, names) => return (q :: params, names ++ imports)
    | none => return (params, imports)

end ClientCompiler.Parameters
