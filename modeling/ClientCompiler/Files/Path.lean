import ClientCompiler.Text.Blank

/-!
Paths of files. Single dots and repeated slashes leave no trace in a path; double dots stay.
-/

namespace ClientCompiler

/-- One slash or two in front, or none, and the names after them. -/
structure FilePath where
  slashes : Nat
  names : List String
  deriving DecidableEq, Repr

namespace FilePath

/-- Three slashes or more in front count as one. -/
def ofString (s : String) : FilePath :=
  let leading := (s.toList.takeWhile (· = '/')).length
  let pieces := (Text.splitOn '/' s.toList).map String.ofList
  ⟨if leading = 2 then 2 else min leading 1, pieces.filter fun p => p ≠ "" && p ≠ "."⟩

def isAbsolute (p : FilePath) : Bool := p.slashes > 0

/-- The names with slashes between them; an empty relative path is a dot. -/
def text (p : FilePath) : String :=
  let body := "/".intercalate p.names
  if p.isAbsolute then String.ofList (List.replicate p.slashes '/') ++ body
  else if p.names.isEmpty then "." else body

def name (p : FilePath) : String := p.names.getLast?.getD ""

def parent (p : FilePath) : FilePath := { p with names := p.names.dropLast }

def child (p : FilePath) (name : String) : FilePath := { p with names := p.names ++ [name] }

def under (base p : FilePath) : FilePath :=
  if p.isAbsolute then p else { base with names := base.names ++ p.names }

/-- The last dot of the name and what follows it, unless the dot is first or last. -/
def suffix (p : FilePath) : String :=
  let name := p.name.toList
  let tail := (name.reverse.takeWhile (· ≠ '.')).reverse
  let before := name.length - tail.length - 1
  if tail.length < name.length && 0 < before && !tail.isEmpty then String.ofList ('.' :: tail) else ""

/-- No system takes a name with a null character in it. -/
def holdsNull (p : FilePath) : Bool := p.names.any fun n => n.toList.contains '\x00'

theorem holdsNull_eq_false {p : FilePath} :
    p.holdsNull = false ↔ ∀ n ∈ p.names, '\x00' ∉ n.toList := by
  simp [holdsNull]

@[simp] theorem parent_child (p : FilePath) (name : String) : (p.child name).parent = p := by
  simp [child, parent]

@[simp] theorem name_child (p : FilePath) (name : String) : (p.child name).name = name := by
  simp [child, FilePath.name]

end FilePath
end ClientCompiler
