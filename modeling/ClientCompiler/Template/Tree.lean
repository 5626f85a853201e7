import ClientCompiler.Template.Grammar
import ClientCompiler.Template.Piece
import ClientCompiler.Template.Scope

/-!
The statements of templates: loops, branches and assignments around text and output. The language has
more of them, such as macros, blocks and inclusions; they are refused like a template that is malformed.
-/

namespace ClientCompiler.Template

inductive Target where
  | name (n : String)
  | tuple (ts : List Target)
  | attributeOf (n a : String)
  deriving Repr, Inhabited

/-- The frames of a loop: of the test of its items, of its turns, and of what stands for no turn. -/
structure LoopScopes where
  test : Scope
  body : Scope
  otherwise : Scope
  deriving Repr, Inhabited

/-- The scopes of loops and of captured blocks are empty until the whole template is known. -/
inductive Node where
  | text (s : List Char)
  | output (e : Expr)
  | loop (target : Target) (items : Expr) (test : Option Expr) (body otherwise : List Node)
      (scopes : LoopScopes)
  | branch (condition : Expr) (yes no : List Node)
  | assign (target : Target) (e : Expr)
  | capture (target : Target) (e : Expr) (body : List Node) (scope : Scope)
  deriving Repr, Inhabited

mutual

def Target.names : Target → List String
  | .name n => [n]
  | .tuple ts => namesOfTargets ts
  | .attributeOf .. => []

def namesOfTargets : List Target → List String
  | [] => []
  | t :: ts => t.names ++ namesOfTargets ts

end

mutual

def Target.owners : Target → List String
  | .name _ => []
  | .tuple ts => ownersOfTargets ts
  | .attributeOf n _ => [n]

def ownersOfTargets : List Target → List String
  | [] => []
  | t :: ts => t.owners ++ ownersOfTargets ts

end

/-! ## Targets -/

namespace Grammar

def endsTargets : List Token → Bool
  | .name "in" :: _ => true
  | ts => endsTuple ts

/-- The targets with commas between them up to their end; a single one without a comma stands for
itself. -/
def targetOf (one : List Token → Option (Target × List Token)) :
    Nat → List Token → Option (List Target × Bool × List Token)
  | 0, _ => none
  | fuel + 1, ts =>
    if endsTargets ts then some ([], true, ts)
    else do
      let (t, r) ← one ts
      match afterOp? "," r with
      | none => return ([t], false, r)
      | some r =>
        let (more, _, r) ← targetOf one fuel r
        return (t :: more, true, r)

def target : Nat → Bool → List Token → Option (Target × List Token)
  | 0, _, _ => none
  | fuel + 1, withAttributes, ts =>
    match ts with
    | .name n :: r =>
      match r with
      | .op "." :: .name a :: rest => if withAttributes then some (.attributeOf n a, rest) else named n r
      | _ => named n r
    | .op "(" :: r => do
      let (ts, isTuple, r) ← targetOf (target fuel false) (r.length + 1) r
      let r ← afterOp? ")" r
      match ts, isTuple with
      | [t], false => return (t, r)
      | ts, _ => return (.tuple ts, r)
    | _ => none
where
  named (n : String) (r : List Token) : Option (Target × List Token) :=
    if (literal? n).isSome then none else some (.name n, r)

def targets (withAttributes : Bool) (ts : List Token) : Option (Target × List Token) := do
  match ← targetOf (target (ts.length + 1) withAttributes) (ts.length + 1) ts with
  | ([], _, _) => none
  | ([t], false, r) => return (t, r)
  | (ts, _, r) => return (.tuple ts, r)

end Grammar

namespace Node

/-! ## Statements -/

/-- The end of a tag, where a colon may come before the body. -/
def endsHeader : List Token → Bool
  | [] => true
  | [.op ":"] => true
  | _ => false

/-- The tag that ended a run of nodes: its word and what follows that. -/
abbrev Stop := Option (String × List Token)

mutual

def nodes (fuel : Nat) (stops : List String) (ps : List Piece) : Option (List Node × Stop × List Piece) :=
  match fuel with
  | 0 => none
  | fuel + 1 =>
    match ps with
    | [] => some ([], none, [])
    | .text s :: ps => do
      let (ns, stop, ps) ← nodes fuel stops ps
      return (.text s :: ns, stop, ps)
    | .output ts :: ps => do
      let e ← Grammar.whole? ts
      let (ns, stop, ps) ← nodes fuel stops ps
      return (.output e :: ns, stop, ps)
    | .statement ts :: ps =>
      match ts with
      | .name w :: r =>
        if stops.contains w then some ([], some (w, r), ps)
        else do
          let (n, ps) ← statement fuel w r ps
          let (ns, stop, ps) ← nodes fuel stops ps
          return (n :: ns, stop, ps)
      | _ => none
  termination_by structural fuel

def statement (fuel : Nat) (word : String) (ts : List Token) (ps : List Piece) :
    Option (Node × List Piece) :=
  match fuel with
  | 0 => none
  | fuel + 1 =>
    if word = "for" then loopNode fuel ts ps
    else if word = "if" then branches fuel ts ps
    else if word = "set" then do
      let (t, r) ← Grammar.targets true ts
      match Grammar.afterOp? "=" r with
      | some r => return (.assign t (← Grammar.whole? r), ps)
      | none =>
        let e ← Grammar.filtersOf? .written (if endsHeader r then [] else r)
        let (body, stop, ps) ← nodes fuel ["endset"] ps
        match stop with
        | some (_, []) => return (.capture t e body .empty, ps)
        | _ => none
    else none
  termination_by structural fuel

def loopNode (fuel : Nat) (ts : List Token) (ps : List Piece) : Option (Node × List Piece) :=
  match fuel with
  | 0 => none
  | fuel + 1 => do
    let (t, r) ← Grammar.targets false ts
    let (items, r) ← Grammar.tupleOf false (← Grammar.afterWord? "in" r)
    let (test, r) ← match Grammar.afterWord? "if" r with
      | some r => (Grammar.tested r).map fun (e, r) => (some e, r)
      | none => some (none, r)
    let r := (Grammar.afterWord? "recursive" r).getD r
    if !endsHeader r then none
    let (body, stop, ps) ← nodes fuel ["endfor", "else"] ps
    let made (otherwise : List Node) : Node := .loop t items test body otherwise default
    match stop with
    | some ("endfor", []) => return (made [], ps)
    | some ("else", r) =>
      if !endsHeader r then none
      let (otherwise, stop, ps) ← nodes fuel ["endfor"] ps
      match stop with
      | some (_, []) => return (made otherwise, ps)
      | _ => none
    | _ => none
  termination_by structural fuel

def branches (fuel : Nat) (ts : List Token) (ps : List Piece) : Option (Node × List Piece) :=
  match fuel with
  | 0 => none
  | fuel + 1 => do
    let (condition, r) ← Grammar.tupleOf false ts
    if !endsHeader r then none
    let (yes, stop, ps) ← nodes fuel ["elif", "else", "endif"] ps
    match stop with
    | some ("endif", []) => return (.branch condition yes [], ps)
    | some ("elif", r) =>
      let (rest, ps) ← branches fuel r ps
      return (.branch condition yes [rest], ps)
    | some ("else", r) =>
      if !endsHeader r then none
      let (no, stop, ps) ← nodes fuel ["endif"] ps
      match stop with
      | some (_, []) => return (.branch condition yes no, ps)
      | _ => none
    | _ => none
  termination_by structural fuel

end

def ofPieces? (ps : List Piece) : Option (List Node) :=
  match nodes (8 * ps.length + 8) [] ps with
  | some (ns, none, []) => some ns
  | _ => none

end Node
end ClientCompiler.Template
