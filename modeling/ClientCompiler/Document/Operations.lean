import ClientCompiler.Document.Parameters
import ClientCompiler.Document.Path

/-!
Operations of one tag, in the order of the document, with the types they import.
-/

namespace ClientCompiler.Operations

structure Found where
  operations : List Operation
  imports : List String

namespace Found

def empty : Found := ⟨[], []⟩

def append (a b : Found) : Found := ⟨a.operations ++ b.operations, a.imports ++ b.imports⟩

end Found

structure Scope where
  table : TypeTable
  registry : List String
  shared : Value
  tag : Value

/-- The response for success, whose key may be a text or a number. -/
def successResponse (responses : Value.Entries) : Option Value.Entries :=
  match (Value.lookup (.str "200") responses).getD ((Value.lookup (.int 200) responses).getD .null) with
  | .map kvs => some kvs
  | _ => none

def returnType (scope : Scope) (context : String) (operation : Value.Entries) :
    Traced (Option TypeNode) := do
  let responses ← Traced.lift (Shape.entries (Shape.orEmptyMap (Value.fieldD "responses" operation)))
  match (successResponse responses).map (Value.fieldD "schema") with
  | some (.map schema) =>
    return some (← Schema.fieldType scope.table scope.registry (some context) (Schema.chain schema))
  | _ => return none

def parameterList (scope : Scope) (v : Value) : Traced (List Value.Entries) := do
  let params ← Traced.lift (Shape.items (Shape.orEmptyList v))
  Traced.each (Parameters.dereference scope.shared) params

def extract (scope : Scope) (path : String) (pathParameters : Value) (method : Method)
    (operation : Value.Entries) : Traced Found := do
  let declared := Value.fieldD "operationId" operation
  let name := if declared.truthy then declared else .str (Path.operationName method path)
  let context := method.title ++ " " ++ path
  let result ← returnType scope context operation
  let inherited ← parameterList scope pathParameters
  let own ← parameterList scope (Value.fieldD "parameters" operation)
  let merged ← Traced.lift (Parameters.merge inherited own)
  let (parameters, imports) ← Parameters.extractAll scope.table scope.registry context merged
  let description := Value.fieldD "description" operation
  Traced.lift (Shape.accept (Shape.textAt "name" name ++ Shape.optionalTextAt "description" description))
  let found : Operation :=
    { name := Shape.textD name
      method
      path := Path.interpolate path
      description := Shape.text? description
      returnType := (result.map TypeNode.text).getD ""
      parameters }
  return ⟨[found], ((result.map (TypeNode.externalTypes scope.table)).getD []) ++ imports⟩

def entryMethod? (key value : Value) : Option (Method × Value.Entries) :=
  match key, value with
  | .str k, .map kvs => (Method.ofKey? k).map (·, kvs)
  | _, _ => none

def hasTag (operation : Value.Entries) (tag : Value) : Except Fault Bool :=
  Shape.contains (Shape.orEmptyList (Value.fieldD "tags" operation)) tag

def ofItem (scope : Scope) (path : String) (pathParameters : Value) :
    Value.Entries → Traced Found
  | [] => pure .empty
  | (key, value) :: kvs =>
    match entryMethod? key value with
    | none => ofItem scope path pathParameters kvs
    | some (method, operation) => do
      if ← Traced.lift (hasTag operation scope.tag) then
        let found ← extract scope path pathParameters method operation
        let rest ← ofItem scope path pathParameters kvs
        return found.append rest
      else ofItem scope path pathParameters kvs

/-- The operations of all paths. The path of an object has to be a text. -/
def ofPaths (scope : Scope) : Value.Entries → Traced Found
  | [] => pure .empty
  | (path, .map item) :: kvs =>
    match path with
    | .str p => do
      let found ← ofItem scope p (Value.fieldD "parameters" item) item
      let rest ← ofPaths scope kvs
      return found.append rest
    | _ => Traced.fail .unfit
  | _ :: kvs => ofPaths scope kvs

def ofDocument (table : TypeTable) (registry : List String) (document tag : Value) : Traced Found := do
  let fields ← Traced.lift (Shape.entries document)
  let paths ← Traced.lift (Shape.entries (Shape.orEmptyMap (Value.fieldD "paths" fields)))
  let shared := Shape.orEmptyMap (Value.fieldD "parameters" fields)
  ofPaths ⟨table, registry, shared, tag⟩ paths

end ClientCompiler.Operations
