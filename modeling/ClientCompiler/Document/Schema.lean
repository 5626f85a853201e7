import ClientCompiler.Document.Shape
import ClientCompiler.Document.Reference

/-!
Types of schemas. A schema is read as the chain of schemas along its `items`; the chain ends where
`items` is not an object, and it has no end where a schema is an item of itself.
-/

namespace ClientCompiler

namespace Schema

/-- A link of a chain: the fields of a schema, or the sign that the chain goes on without end. -/
inductive Link where
  | schema (fields : Value.Entries)
  | endless
  deriving Repr

mutual

def chainOfValue : Value → List Link
  | .map kvs => .schema kvs :: chainOfItems kvs
  | .again true => [.endless]
  | _ => []
termination_by structural v => v

def chainOfItems : List (Value × Value) → List Link
  | [] => []
  | (.str k, v) :: kvs => if k = "items" then chainOfValue v else chainOfItems kvs
  | _ :: kvs => chainOfItems kvs
termination_by structural kvs => kvs

end

def chain (schema : Value.Entries) : List Link := .schema schema :: chainOfItems schema

def saysArray : Value → Bool
  | .str s => s == "array"
  | _ => false

def referenceTarget? (table : TypeTable) : List Link → Except Fault (Option TypeNode)
  | [] => .ok none
  | .endless :: _ => .error .endless
  | .schema s :: rest => do
    match ← Reference.target? table (Value.fieldD "$ref" s) with
    | some t => return some t
    | none =>
      if saysArray (Value.fieldD "type" s) then
        return (← referenceTarget? table rest).map TypeNode.arrayOf
      else return none

def inlineType (table : TypeTable) : List Link → Except Fault TypeNode
  | [] => .ok TypeNode.any
  | .endless :: _ => .error .endless
  | .schema s :: rest => do
    let node ← TypeNode.ofValue table (Value.fieldD "type" s)
    if node.isArray && node.generics.isEmpty && !rest.isEmpty then
      return TypeNode.arrayOf (← inlineType table rest)
    else return node

/-- What a reference to a type reports: its innermost name, if it is neither registered nor built
in. -/
def danglingLog (table : TypeTable) (registry : List String) (context : Option String)
    (target : TypeNode) : List Diagnostic :=
  let wanted := target.innermost.name
  if registry.contains wanted || table.isBase wanted then []
  else [.unresolved wanted context]

/-- The type of a parameter or a response. A reference keeps its name even if it is reported. -/
def fieldType (table : TypeTable) (registry : List String) (context : Option String) :
    List Link → Traced TypeNode
  | [] => pure TypeNode.any
  | .endless :: _ => Traced.fail .endless
  | .schema s :: rest => do
    match ← Traced.lift (Reference.target? table (Value.fieldD "$ref" s)) with
    | some t => ⟨.ok t, danglingLog table registry context t⟩
    | none =>
      let type := Value.fieldD "type" s
      if !type.truthy then return TypeNode.ofString table "any"
      else
        let node ← Traced.lift (TypeNode.ofValue table type)
        if node.isArray && node.generics.isEmpty && !rest.isEmpty then
          return TypeNode.arrayOf (← fieldType table registry context rest)
        else return node

def fieldTypeOfValue (table : TypeTable) (registry : List String) (context : Option String)
    (schema : Value) : Traced TypeNode := do
  let kvs ← Traced.lift (Shape.entries schema)
  fieldType table registry context (chain kvs)

@[simp] theorem chain_ne_nil (schema : Value.Entries) : chain schema ≠ [] := by simp [chain]

end Schema
end ClientCompiler
