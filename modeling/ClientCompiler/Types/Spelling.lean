import ClientCompiler.Types.Node

/-!
Reading the spelling of a type. Arguments stand in angle brackets or guillemets, `[]` after a
spelling makes an array of it, and blanks around names and arguments do not count. Spellings may stand
in one another to any depth.
-/

namespace ClientCompiler

namespace Spelling

/-- The depth of brackets after one more character; surplus closing brackets are ignored. -/
def depthAfter (depth : Nat) (c : Char) : Nat :=
  if c = '<' then depth + 1 else if c = '>' then depth - 1 else depth

def consHead (c : Char) : List (List Char) → List (List Char)
  | [] => [[c]]
  | p :: ps => (c :: p) :: ps

/-- The pieces between commas outside all brackets, as they are written. -/
def pieces (depth : Nat) : List Char → List (List Char)
  | [] => [[]]
  | c :: cs =>
    if c = ',' ∧ depth = 0 then [] :: pieces 0 cs
    else consHead c (pieces (depthAfter depth c) cs)

def dropEmptyLast : List (List Char) → List (List Char)
  | [] => []
  | [p] => if p.isEmpty then [] else [p]
  | p :: q :: ps => p :: dropEmptyLast (q :: ps)

/-- The arguments of a bracketed segment, trimmed. Nothing follows a last comma. -/
def arguments (segment : List Char) : List (List Char) :=
  (dropEmptyLast (pieces 0 segment)).map Text.trim

def plainBracket (c : Char) : Char := if c = '«' then '<' else if c = '»' then '>' else c

def beforeArraySuffix? (s : List Char) : Option (List Char) :=
  match s.reverse with
  | ']' :: '[' :: r => some r.reverse
  | _ => none

def beforeLastClosing? (s : List Char) : Option (List Char) :=
  match s.reverse.dropWhile (· ≠ '>') with
  | _ :: r => some r.reverse
  | [] => none

def nameAndSegment (s : List Char) : List Char × Option (List Char) :=
  match s.dropWhile (· ≠ '<') with
  | _ :: rest => (s.takeWhile (· ≠ '<'), beforeLastClosing? rest)
  | [] => (s, none)

/-- The name that a node gets; a name that the table makes empty is `any`. -/
def nodeName (table : TypeTable) (name : List Char) : String :=
  let n := table.canonicalName (String.ofList (Text.trim name))
  if n.isEmpty then "any" else n

/-- Reads a spelling, where the fuel exceeds its length. -/
def parse (table : TypeTable) : Nat → List Char → TypeNode
  | 0, _ => TypeNode.any
  | fuel + 1, s =>
    match (Text.trim s).map plainBracket with
    | [] => TypeNode.any
    | t =>
      match beforeArraySuffix? t with
      | some element => TypeNode.arrayOf (parse table fuel element)
      | none =>
        let (name, segment) := nameAndSegment t
        .node (nodeName table name) (((segment.map arguments).getD []).map (parse table fuel))

end Spelling

/-- The type that a text spells; a blank text spells `any`. -/
def TypeNode.ofChars (table : TypeTable) (s : List Char) : TypeNode :=
  Spelling.parse table (s.length + 1) s

def TypeNode.ofString (table : TypeTable) (s : String) : TypeNode := TypeNode.ofChars table s.toList

def canonicalSpelling (table : TypeTable) (s : String) : String := (TypeNode.ofString table s).text

end ClientCompiler
