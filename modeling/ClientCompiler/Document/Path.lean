import ClientCompiler.Client.Basic

/-!
Paths of operations: their placeholders as template interpolations, and the operation names that
are made from them.
-/

namespace ClientCompiler.Path

def opensPlaceholder (s : List Char) : Bool :=
  match s with
  | [] => false
  | c :: cs => c ≠ '\x7d' && cs.contains '\x7d'

/-- Puts a dollar before every placeholder. Inside a placeholder nothing is looked for. -/
def interpolateFrom (inside : Bool) : List Char → List Char
  | [] => []
  | c :: cs =>
    if inside then c :: interpolateFrom (c ≠ '\x7d') cs
    else if c = '\x7b' && opensPlaceholder cs then '$' :: c :: interpolateFrom true cs
    else c :: interpolateFrom false cs

def interpolate (path : String) : String := String.ofList (interpolateFrom false path.toList)

def isWordChar (c : Char) : Bool :=
  ('0' ≤ c && c ≤ '9') || ('a' ≤ c && c ≤ 'z') || ('A' ≤ c && c ≤ 'Z')

/-- The words of a segment, each with a capital first letter. `fresh` tells that a word may begin
here. -/
def capitalWords (fresh : Bool) : List Char → List Char
  | [] => []
  | c :: cs =>
    if isWordChar c then (if fresh then c.toUpper else c) :: capitalWords false cs
    else capitalWords true cs

def placeholderName? (segment : List Char) : Option (List Char) :=
  match segment with
  | '\x7b' :: cs =>
    match cs.reverse with
    | '\x7d' :: r =>
      if r.isEmpty || r.contains '\x7d' then none else some r.reverse
    | _ => none
  | _ => none

def segmentName (segment : List Char) : List Char :=
  match placeholderName? segment with
  | some name => capitalWords true ('b' :: 'y' :: '_' :: name)
  | none => capitalWords true segment

def operationName (method : Method) (path : String) : String :=
  String.ofList (method.name.toList ++ (Text.splitOn '/' path.toList).flatMap segmentName)

end ClientCompiler.Path
