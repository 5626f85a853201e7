import ClientCompiler.Template.Operation

/-!
The tests of templates: what is asked of the datum before the word `is`. Tests that are not named here
are unknown.
-/

namespace ClientCompiler.Template

def comparisonNamed? (n : String) : Option Comparison :=
  match n with
  | "eq" | "equalto" | "==" => some .equal
  | "ne" | "!=" => some .unequal
  | "lt" | "lessthan" | "<" => some .less
  | "le" | "<=" => some .lessOrEqual
  | "gt" | "greaterthan" | ">" => some .greater
  | "ge" | ">=" => some .greaterOrEqual
  | _ => none

def isKnownTest (n : String) : Bool :=
  (comparisonNamed? n).isSome || ["defined", "undefined", "none", "boolean", "true", "false",
    "integer", "float", "number", "string", "mapping", "sequence", "iterable", "odd", "even",
    "divisibleby", "in"].contains n

namespace Datum

/-- The arguments of a function by the names of its parameters. An argument that none of them takes,
or a second one for the same parameter, does not fit. -/
def bindArguments (parameters : List String) (args : List Datum) (named : List (String × Datum)) :
    Rendering (List (String × Datum)) :=
  if args.length ≤ parameters.length &&
      named.all fun (n, _) => (parameters.drop args.length).contains n then
    .ok (parameters.zip args ++ named.reverse)
  else unfit

/-- The only handles with keys are those of settings. -/
def isMapping : Datum → Bool
  | .handle name _ => name.toList.head? = some '\x7b'
  | _ => false

def isSequence (d : Datum) : Bool := d.isUndefined || d.isMapping || d.placed?.isSome

def isIterable (d : Datum) : Bool :=
  d.isSequence || match d with
    | .stream .. => true
    | .record .. => true
    | .turn .. => true
    | _ => false

def leaves (d divisor : Datum) (i : Int) : Rendering Bool := do
  return (← defined mod d divisor).same (.int i)

def hasQuality (n : String) (d : Datum) : Rendering Bool :=
  match n, d with
  | "defined", _ => .ok !d.isUndefined
  | "undefined", _ => .ok d.isUndefined
  | "none", .nothing => .ok true
  | "boolean", .bool _ => .ok true
  | "true", .bool b => .ok b
  | "false", .bool b => .ok !b
  | "integer", .int _ => .ok true
  | "float", .float _ => .ok true
  | "number", .bool _ => .ok true
  | "number", .int _ => .ok true
  | "number", .float _ => .ok true
  | "string", _ => .ok d.text?.isSome
  | "mapping", _ => .ok d.isMapping
  | "sequence", _ => .ok d.isSequence
  | "iterable", _ => .ok d.isIterable
  | "odd", _ => d.leaves (.int 2) 1
  | "even", _ => d.leaves (.int 2) 0
  | _, _ => .ok false

def passes (n : String) (d : Datum) (args : List Datum) (named : List (String × Datum)) :
    Rendering Bool :=
  let against (parameter : String) (holds : Datum → Rendering Bool) : Rendering Bool := do
    match (← bindArguments [parameter] args named).lookup parameter with
    | some other => holds other
    | none => unfit
  if !isKnownTest n then ofTemplate
  else match comparisonNamed? n, n with
    | some c, _ => match args, named with
      | [other], [] => d.compared c other
      | _, _ => unfit
    | none, "divisibleby" => against "num" fun other => d.leaves other 0
    | none, "in" => against "seq" d.within
    | none, n => do
      let _ ← bindArguments [] args named
      d.hasQuality n

end Datum
end ClientCompiler.Template
