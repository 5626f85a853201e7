import ClientCompiler.Template.Program

/-!
What a template writes for given names. A name without a meaning is written as nothing, but it has
no attributes and nothing can be computed with it.
-/

namespace ClientCompiler.Template

/-- What the names stand for; the first entry of a name counts. -/
abbrev Names := List (String × Datum)

/-- What the names of a frame stand for, of which some may be without a meaning. -/
abbrev Frame := List (String × Option Datum)

def everywhere : Names := [("range", .handle "<class 'range'>" true),
  ("dict", .handle "<class 'dict'>" true), ("lipsum", .object "function generate_lorem_ipsum"),
  ("cycler", .handle "<class 'jinja2.utils.Cycler'>" true),
  ("joiner", .handle "<class 'jinja2.utils.Joiner'>" true),
  ("namespace", .handle "<class 'jinja2.utils.Namespace'>" true),
  ("self", .handle "<TemplateReference None>" true)]

/-- What a template is given and what it has besides, and the frames that are open, the innermost
first. -/
structure Frames where
  chance : Chance
  given : Names
  stack : List Frame

namespace Frames

def find? (s : Frames) (n : String) : Option Datum := (s.stack.findSome? (·.lookup n)).join

def given? (s : Frames) (n : String) : Option Datum := (s.given.lookup n).or (everywhere.lookup n)

def meaning (s : Frames) : Meaning := .names s.chance fun n => (s.find? n).getD .undefined

def enter (s : Frames) (scope : Scope) (own : Names) : Frames :=
  let start (n : String) : Origin → Option Datum
    | .given => s.given? n
    | .outer => s.find? n
    | .missing => none
    | .bound => own.lookup n
  ⟨s.chance, s.given, (scope.origins.map fun (n, o) => (n, start n o)) :: s.stack⟩

/-- Stores data in the innermost frame, the last one of a name for good. -/
def store (s : Frames) (data : Names) : Frames :=
  match s.stack with
  | [] => s
  | f :: fs => ⟨s.chance, s.given, ((data.map fun (n, d) => (n, some d)).reverse ++ f) :: fs⟩

end Frames

mutual

def Target.take (d : Datum) : Target → Rendering Names
  | .name n => .ok [(n, d)]
  | .tuple ts => do takeAll (← d.items) ts
  | .attributeOf .. => ofTemplate

def takeAll : List Datum → List Target → Rendering Names
  | [], [] => .ok []
  | d :: ds, t :: ts => do
    let first ← t.take d
    return first ++ (← takeAll ds ts)
  | _, _ => badValue

end

/-- The items that pass a test, up to the first that it fails on. -/
def passing (test : Datum → Rendering Bool) : List Datum → List Datum × Rendering Unit
  | [] => ([], .ok ())
  | x :: xs =>
    match test x with
    | .error f => ([], .error f)
    | .ok b =>
      let (kept, outcome) := passing test xs
      (if b then x :: kept else kept, outcome)

def writeEach {α : Type} (f : Nat → α → Rendering (List Char)) : Nat → List α → Rendering (List Char)
  | _, [] => .ok []
  | i, x :: xs => do
    let s ← f i x
    return s ++ (← writeEach f (i + 1) xs)

/-- The items of a loop, and whether its test failed after them. -/
def loopItems (s : Frames) (target : Target) (items : Expr) (test : Option Expr)
    (scope : Scope) : Rendering (List Datum × Rendering Unit) := do
  let xs ← (← items.eval s.meaning).items
  match test with
  | none => return (xs, .ok ())
  | some e =>
    let holds (x : Datum) : Rendering Bool := do
      let inner := s.enter scope (← target.take x).reverse
      return (← e.eval inner.meaning).truthy
    return passing holds xs

mutual

def Node.write (s : Frames) : Node → Rendering (List Char × Frames)
  | .text t => .ok (t, s)
  | .output e => do return ((← e.eval s.meaning).render s.chance, s)
  | .assign target e =>
    if !target.owners.isEmpty then ofTemplate
    else do return ([], s.store (← target.take (← e.eval s.meaning)))
  | .branch condition yes no => do
    if (← condition.eval s.meaning).truthy then writeNodes s yes else writeNodes s no
  | .loop target items test body otherwise scopes => do
    let (xs, outcome) ← loopItems s target items test scopes.test
    let turn (i : Nat) (x : Datum) : Rendering (List Char) := do
      let own ← target.take x
      let inner := s.enter scopes.body (own.reverse ++ [("loop", .turn i xs)])
      return (← writeNodes inner body).1
    let written ← writeEach turn 0 xs
    outcome
    if xs.isEmpty then return ((← writeNodes (s.enter scopes.otherwise []) otherwise).1, s)
    else return (written, s)
  | .capture target e body scope => do
    let (written, inner) ← writeNodes (s.enter scope []) body
    let d ← e.eval (inner.store [("", .text written)]).meaning
    return ([], s.store (← target.take d))

def writeNodes (s : Frames) : List Node → Rendering (List Char × Frames)
  | [] => .ok ([], s)
  | n :: ns => do
    let (first, s) ← n.write s
    let (rest, s) ← writeNodes s ns
    return (first ++ rest, s)

end

theorem writeNodes_singleton (s : Frames) (n : Node) : writeNodes s [n] = n.write s := by
  rw [writeNodes]
  cases h : n.write s with
  | error e => rfl
  | ok w => simp [writeNodes, bind, Except.bind, pure, Except.pure]

@[simp] theorem Node.write_text (s : Frames) (t : List Char) : (Node.text t).write s = .ok (t, s) := by
  rw [Node.write]

def render (chance : Chance) (p : Program) (given : Names) : Rendering (List Char) :=
  (writeNodes ((Frames.mk chance given []).enter p.scope []) p.nodes).map Prod.fst

end ClientCompiler.Template
