import ClientCompiler.Text.Blank

/-!
Types as trees: a name over ordered generic arguments. The canonical text of an array is its
element followed by brackets; other arguments stand in angle brackets.
-/

namespace ClientCompiler

/-- How names are spelt in the target language, and which of its names are built in. -/
structure TypeTable where
  renames : List (String × String)
  base : List String
  deriving Repr

namespace TypeTable

def empty : TypeTable := ⟨[], []⟩

def canonicalName (t : TypeTable) (name : String) : String := (t.renames.lookup name).getD name

def isBase (t : TypeTable) (name : String) : Bool := t.base.contains name

def typeScript : TypeTable where
  renames := [
    ("integer", "number"), ("int", "number"), ("long", "number"), ("float", "number"),
    ("double", "number"), ("decimal", "number"), ("bigdecimal", "number"), ("Integer", "number"),
    ("Long", "number"), ("Double", "number"), ("Boolean", "boolean"), ("String", "string"),
    ("Object", "object"), ("date", "string"), ("file", "File"), ("List", "array"),
    ("Set", "array"), ("Array", "array"), ("Map", "Record"), ("Void", "void")]
  base := ["string", "number", "object", "boolean", "array", "any", "void", "undefined", "null",
    "Record", "File"]

end TypeTable

inductive TypeNode where
  | node (name : String) (generics : List TypeNode)
  deriving Repr, Inhabited

namespace TypeNode

def name : TypeNode → String
  | node n _ => n

def generics : TypeNode → List TypeNode
  | node _ gs => gs

def isArray (t : TypeNode) : Bool := t.name == "array"

def any : TypeNode := node "any" []

def arrayOf (element : TypeNode) : TypeNode := node "array" [element]

mutual

def same : TypeNode → TypeNode → Bool
  | node n gs, node m hs => n == m && sameAll gs hs

def sameAll : List TypeNode → List TypeNode → Bool
  | [], [] => true
  | g :: gs, h :: hs => same g h && sameAll gs hs
  | _, _ => false

end

mutual

def text : TypeNode → String
  | node n gs =>
    if n = "array" then
      match gs with
      | [] => "any[]"
      | g :: _ => text g ++ "[]"
    else
      match gs with
      | [] => n
      | g :: gs => n ++ "<" ++ text g ++ textTail gs

def textTail : List TypeNode → String
  | [] => ">"
  | g :: gs => "," ++ text g ++ textTail gs

end

mutual

/-- The names in the tree, a node before its arguments. -/
def names : TypeNode → List String
  | node n gs => n :: namesAll gs

def namesAll : List TypeNode → List String
  | [] => []
  | g :: gs => names g ++ namesAll gs

end

/-- The names that generated code has to import, with repeats. -/
def externalTypes (table : TypeTable) (t : TypeNode) : List String :=
  t.names.filter fun n => !table.isBase n

/-- The element of the innermost array, along first arguments. -/
def innermost : TypeNode → TypeNode
  | node n [] => node n []
  | node n (g :: gs) => if n = "array" then innermost g else node n (g :: gs)

@[simp] theorem name_node (n : String) (gs : List TypeNode) : (node n gs).name = n := rfl

@[simp] theorem generics_node (n : String) (gs : List TypeNode) : (node n gs).generics = gs := rfl

@[simp] theorem text_any : any.text = "any" := by simp [any, text]

theorem text_arrayOf (t : TypeNode) : (arrayOf t).text = t.text ++ "[]" := by simp [arrayOf, text]

@[simp] theorem innermost_arrayOf (t : TypeNode) : (arrayOf t).innermost = t.innermost := by
  simp [arrayOf, innermost]

theorem innermost_of_not_array {t : TypeNode} (h : t.isArray = false) : t.innermost = t := by
  obtain ⟨n, gs⟩ := t
  cases gs with
  | nil => rfl
  | cons g gs =>
    have hn : n ≠ "array" := by simpa [isArray] using h
    rw [innermost, if_neg hn]

mutual

theorem eq_of_same : ∀ {s t : TypeNode}, same s t = true → s = t
  | node n gs, node m hs, h => by
    simp only [same, Bool.and_eq_true, beq_iff_eq] at h
    rw [h.1, eq_of_sameAll h.2]

theorem eq_of_sameAll : ∀ {gs hs : List TypeNode}, sameAll gs hs = true → gs = hs
  | [], [], _ => rfl
  | [], _ :: _, h => by simp [sameAll] at h
  | _ :: _, [], h => by simp [sameAll] at h
  | g :: gs, k :: hs, h => by
    simp only [sameAll, Bool.and_eq_true] at h
    rw [eq_of_same h.1, eq_of_sameAll h.2]

end

mutual

theorem same_self : ∀ t : TypeNode, same t t = true
  | node n gs => by simp [same, sameAll_self gs]

theorem sameAll_self : ∀ gs : List TypeNode, sameAll gs gs = true
  | [] => rfl
  | g :: gs => by simp [sameAll, same_self g, sameAll_self gs]

end

instance : DecidableEq TypeNode := fun s t =>
  decidable_of_iff (same s t = true) ⟨eq_of_same, fun h => h ▸ same_self s⟩

end TypeNode
end ClientCompiler
