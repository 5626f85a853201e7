import ClientCompiler.Traced
import ClientCompiler.Types.Spelling

/-!
Types and references as they stand in documents, where any value may stand in their place.
-/

namespace ClientCompiler

def isBlankOctet (b : UInt8) : Bool := (9 ≤ b && b ≤ 13) || b == 32

/-- The type that a value spells. Nothing, false and empty values spell `any`; of the other
values only a text spells a type. -/
def TypeNode.ofValue (table : TypeTable) (v : Value) : Except Fault TypeNode :=
  match v with
  | .str s => .ok (TypeNode.ofString table s)
  | .bytes b => if b.all isBlankOctet then .ok TypeNode.any else .error .unfit
  | v => if v.truthy then .error .noMember else .ok TypeNode.any

namespace Reference

def definitionPrefix : String := "#/definitions/"

def parameterPrefix : String := "#/parameters/"

def nameOf (s : String) : Option String :=
  (Text.dropPrefix? definitionPrefix.toList s.toList).map String.ofList

def name? (v : Value) : Except Fault (Option String) :=
  match v with
  | .str s => .ok (nameOf s)
  | .bytes b => if b.isEmpty then .ok none else .error .unfit
  | v => if v.truthy then .error .noMember else .ok none

def target? (table : TypeTable) (v : Value) : Except Fault (Option TypeNode) :=
  (name? v).map (·.map (TypeNode.ofString table))

end Reference
end ClientCompiler
