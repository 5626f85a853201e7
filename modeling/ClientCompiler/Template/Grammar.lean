import ClientCompiler.Template.Method
import ClientCompiler.Template.Token

/-!
The grammar of expressions. A bar binds closer than a sign in front, and that closer than powers,
products, joined texts, sums, comparisons, negation, conjunction, disjunction and choice, in this
order. Only a part of the language is here: what else it has, such as maps in braces and calls of other
things than those that `callNames` names, is refused like an expression that is malformed.
-/

namespace ClientCompiler.Template

namespace Grammar

def afterOp? (s : String) : List Token → Option (List Token)
  | .op t :: r => if t = s then some r else none
  | _ => none

def afterWord? (s : String) : List Token → Option (List Token)
  | .name t :: r => if t = s then some r else none
  | _ => none

def adjacentStrings : List Token → List Char × List Token
  | .str s :: r =>
    let (t, rest) := adjacentStrings r
    (s ++ t, rest)
  | r => ([], r)

def literal? (w : String) : Option Datum :=
  if w = "true" || w = "True" then some (.bool true)
  else if w = "false" || w = "False" then some (.bool false)
  else if w = "none" || w = "None" then some .nothing
  else none

def comparison? : List Token → Option (Comparison × List Token)
  | .op "==" :: r => some (.equal, r)
  | .op "!=" :: r => some (.unequal, r)
  | .op "<" :: r => some (.less, r)
  | .op "<=" :: r => some (.lessOrEqual, r)
  | .op ">" :: r => some (.greater, r)
  | .op ">=" :: r => some (.greaterOrEqual, r)
  | .name "in" :: r => some (.within, r)
  | .name "not" :: .name "in" :: r => some (.notWithin, r)
  | _ => none

def sumOp? : List Token → Option (BinaryOp × List Token)
  | .op "+" :: r => some (.add, r)
  | .op "-" :: r => some (.sub, r)
  | _ => none

def concatOp? : List Token → Option (BinaryOp × List Token)
  | .op "~" :: r => some (.concat, r)
  | _ => none

def productOp? : List Token → Option (BinaryOp × List Token)
  | .op "*" :: r => some (.mul, r)
  | .op "/" :: r => some (.div, r)
  | .op "//" :: r => some (.floorDiv, r)
  | .op "%" :: r => some (.mod, r)
  | _ => none

def powerOp? : List Token → Option (BinaryOp × List Token)
  | .op "**" :: r => some (.pow, r)
  | _ => none

def conjOp? : List Token → Option (BinaryOp × List Token)
  | .name "and" :: r => some (.conj, r)
  | _ => none

def disjOp? : List Token → Option (BinaryOp × List Token)
  | .name "or" :: r => some (.disj, r)
  | _ => none

/-- Levels of binary operators, the loosest first. -/
inductive Level where
  | disjunction
  | conjunction
  | sum
  | concat
  | product
  | power
  deriving DecidableEq, Repr

def Level.op? : Level → List Token → Option (BinaryOp × List Token)
  | .disjunction => disjOp?
  | .conjunction => conjOp?
  | .sum => sumOp?
  | .concat => concatOp?
  | .product => productOp?
  | .power => powerOp?

/-- Whether a tag or a bracket ends here, so that no item of a tuple follows. -/
def endsTuple : List Token → Bool
  | [] => true
  | .op ")" :: _ => true
  | _ => false

/-- Whether what comes next after the name of a test is the one argument of it. -/
def startsArgument : List Token → Bool
  | .name w :: _ => !(["else", "or", "and"].contains w)
  | .op s :: _ => s = "[" || s = "\x7b"
  | [] => false
  | _ => true

def dottedName : Nat → String → List Token → Option (String × List Token)
  | 0, _, _ => none
  | fuel + 1, n, .op "." :: .name m :: r => dottedName fuel (n ++ "." ++ m) r
  | _ + 1, _, .op "." :: _ => none
  | _ + 1, n, r => some (n, r)

mutual

/-- An expression, of which the choice after `if` may be left out. -/
def expression (fuel : Nat) (withChoice : Bool) (ts : List Token) : Option (Expr × List Token) :=
  match fuel with
  | 0 => none
  | fuel + 1 =>
    if withChoice then do
      let (a, r) ← expression fuel false ts
      choices fuel a r
    else operands fuel .disjunction ts
  termination_by structural fuel

def choices (fuel : Nat) (a : Expr) (ts : List Token) : Option (Expr × List Token) :=
  match fuel with
  | 0 => none
  | fuel + 1 =>
    match afterWord? "if" ts with
    | none => some (a, ts)
    | some r => do
      let (condition, r) ← expression fuel false r
      match afterWord? "else" r with
      | none => choices fuel (.choice condition a none) r
      | some r =>
        let (b, r) ← expression fuel true r
        choices fuel (.choice condition a (some b)) r
  termination_by structural fuel

def operand (fuel : Nat) (level : Level) (ts : List Token) : Option (Expr × List Token) :=
  match fuel with
  | 0 => none
  | fuel + 1 =>
    match level with
    | .disjunction => operands fuel .conjunction ts
    | .conjunction => negations fuel ts
    | .sum => operands fuel .concat ts
    | .concat => operands fuel .product ts
    | .product => operands fuel .power ts
    | .power => unary fuel true ts
  termination_by structural fuel

def operands (fuel : Nat) (level : Level) (ts : List Token) : Option (Expr × List Token) :=
  match fuel with
  | 0 => none
  | fuel + 1 => do
    let (a, r) ← operand fuel level ts
    moreOperands fuel level a r
  termination_by structural fuel

def moreOperands (fuel : Nat) (level : Level) (a : Expr) (ts : List Token) :
    Option (Expr × List Token) :=
  match fuel with
  | 0 => none
  | fuel + 1 =>
    match level.op? ts with
    | none => some (a, ts)
    | some (op, r) => do
      let (b, r) ← operand fuel level r
      moreOperands fuel level (.binary op a b) r
  termination_by structural fuel

def negations (fuel : Nat) (ts : List Token) : Option (Expr × List Token) :=
  match fuel with
  | 0 => none
  | fuel + 1 =>
    match afterWord? "not" ts with
    | some r => do
      let (e, r) ← negations fuel r
      return (.negation e, r)
    | none => do
      let (a, r) ← operands fuel .sum ts
      let (rest, r) ← comparisons fuel r
      return (if rest.isEmpty then a else .compare a rest, r)
  termination_by structural fuel

def comparisons (fuel : Nat) (ts : List Token) : Option (List (Comparison × Expr) × List Token) :=
  match fuel with
  | 0 => none
  | fuel + 1 =>
    match comparison? ts with
    | none => some ([], ts)
    | some (c, r) => do
      let (e, r) ← operands fuel .sum r
      let (rest, r) ← comparisons fuel r
      return ((c, e) :: rest, r)
  termination_by structural fuel

/-- An operand with signs in front, and with its bars unless a sign stands before it. -/
def unary (fuel : Nat) (withFilters : Bool) (ts : List Token) : Option (Expr × List Token) :=
  match fuel with
  | 0 => none
  | fuel + 1 => do
    let (e, r) ← match afterOp? "-" ts, afterOp? "+" ts with
      | some r, _ => (unary fuel false r).map fun (e, r) => (.negative e, r)
      | none, some r => (unary fuel false r).map fun (e, r) => (.positive e, r)
      | none, none => primary fuel ts
    let (e, r) ← suffixes fuel e r
    if withFilters then filters fuel e r else some (e, r)
  termination_by structural fuel

def primary (fuel : Nat) (ts : List Token) : Option (Expr × List Token) :=
  match fuel with
  | 0 => none
  | fuel + 1 =>
    match ts with
    | .name w :: r => some (match literal? w with
      | some d => (.const d, r)
      | none => (.name w, r))
    | .str _ :: _ =>
      let (s, r) := adjacentStrings ts
      some (.const (.text s), r)
    | .int n :: r => some (.const (.int n), r)
    | .float x :: r => some (.const (.float x), r)
    | .misread _ :: r => some (.const .nothing, r)
    | .op "(" :: r => do
      let (e, r) ← tuple fuel true true r
      return (e, ← afterOp? ")" r)
    | .op "[" :: r => do
      let (items, r) ← listItems fuel r
      return (.list items, r)
    | _ => none
  termination_by structural fuel

def listItems (fuel : Nat) (ts : List Token) : Option (List Expr × List Token) :=
  match fuel with
  | 0 => none
  | fuel + 1 =>
    match afterOp? "]" ts with
    | some r => some ([], r)
    | none => do
      let (e, r) ← expression fuel true ts
      match afterOp? "]" r with
      | some r => some ([e], r)
      | none =>
        let (es, r) ← listItems fuel (← afterOp? "," r)
        return (e :: es, r)
  termination_by structural fuel

/-- An expression, or a tuple if a comma follows one. Only brackets hold a tuple of nothing. -/
def tuple (fuel : Nat) (bracketed withChoice : Bool) (ts : List Token) : Option (Expr × List Token) :=
  match fuel with
  | 0 => none
  | fuel + 1 =>
    if endsTuple ts then (if bracketed then some (.tuple [], ts) else none)
    else do
      let (e, r) ← expression fuel withChoice ts
      match afterOp? "," r with
      | none => some (e, r)
      | some r =>
        let (es, r) ← tupleItems fuel withChoice r
        return (.tuple (e :: es), r)
  termination_by structural fuel

def tupleItems (fuel : Nat) (withChoice : Bool) (ts : List Token) : Option (List Expr × List Token) :=
  match fuel with
  | 0 => none
  | fuel + 1 =>
    if endsTuple ts then some ([], ts)
    else do
      let (e, r) ← expression fuel withChoice ts
      match afterOp? "," r with
      | none => some ([e], r)
      | some r =>
        let (es, r) ← tupleItems fuel withChoice r
        return (e :: es, r)
  termination_by structural fuel

def suffixes (fuel : Nat) (e : Expr) (ts : List Token) : Option (Expr × List Token) :=
  match fuel with
  | 0 => none
  | fuel + 1 =>
    match ts with
    | .op "." :: .name n :: r => suffixes fuel (.access e n) r
    | .op "." :: .int n :: r => suffixes fuel (.item e (.const (.int n))) r
    | .op "." :: _ => none
    | .op "[" :: r => do
      let (indices, r) ← subscripts fuel true r
      suffixes fuel (.item e (match indices with
        | [i] => i
        | is => .tuple is)) r
    | .op "(" :: r => do
      let (args, named, r) ← arguments fuel r
      match e with
      | .access d n => if Datum.callNames.contains n then suffixes fuel (.call d n args named) r else none
      | _ => none
    | _ => some (e, ts)
  termination_by structural fuel

/-- What stands in brackets after an expression, with commas between; no comma comes last. -/
def subscripts (fuel : Nat) (first : Bool) (ts : List Token) : Option (List Expr × List Token) :=
  match fuel with
  | 0 => none
  | fuel + 1 =>
    match afterOp? "]" ts with
    | some r => some ([], r)
    | none => do
      let (i, r) ← subscript fuel (← if first then some ts else afterOp? "," ts)
      let (is, r) ← subscripts fuel false r
      return (i :: is, r)
  termination_by structural fuel

def subscript (fuel : Nat) (ts : List Token) : Option (Expr × List Token) :=
  match fuel with
  | 0 => none
  | fuel + 1 => do
    let (first, r) ← match ts with
      | .op ":" :: _ => some (none, ts)
      | _ => (expression fuel true ts).map fun (e, r) => (some e, r)
    match first, afterOp? ":" r with
    | some e, none => return (e, r)
    | first, none => (first.map fun e => (e, r))
    | first, some r =>
      let (last, r) ← bound fuel r
      match afterOp? ":" r with
      | none => return (.span first last none, r)
      | some r =>
        let (step, r) ← bound fuel r
        return (.span first last step, r)
  termination_by structural fuel

def bound (fuel : Nat) (ts : List Token) : Option (Option Expr × List Token) :=
  match fuel with
  | 0 => none
  | fuel + 1 =>
    match ts with
    | .op ":" :: _ => some (none, ts)
    | .op "]" :: _ => some (none, ts)
    | .op "," :: _ => some (none, ts)
    | _ => (expression fuel true ts).map fun (e, r) => (some e, r)
  termination_by structural fuel

def filters (fuel : Nat) (e : Expr) (ts : List Token) : Option (Expr × List Token) :=
  match fuel with
  | 0 => none
  | fuel + 1 =>
    match ts with
    | .op "|" :: .name n :: r => do
      let (n, r) ← dottedName fuel n r
      match afterOp? "(" r with
      | none => filters fuel (.filter n e [] []) r
      | some r =>
        let (args, named, r) ← arguments fuel r
        filters fuel (.filter n e args named) r
    | .op "|" :: _ => none
    | .name "is" :: r => do
      let negated := afterWord? "not" r
      let (e, r) ← test fuel e (negated.getD r)
      filters fuel (if negated.isSome then .negation e else e) r
    | .op "(" :: _ => none
    | _ => some (e, ts)
  termination_by structural fuel

/-- A test of an expression, from its name on. A single argument needs no brackets. -/
def test (fuel : Nat) (e : Expr) (ts : List Token) : Option (Expr × List Token) :=
  match fuel with
  | 0 => none
  | fuel + 1 =>
    match ts with
    | .name n :: r => do
      let (n, r) ← dottedName fuel n r
      match afterOp? "(" r with
      | some r =>
        let (args, named, r) ← arguments fuel r
        return (.test n e args named, r)
      | none =>
        if !startsArgument r then return (.test n e [] [], r)
        else if (afterWord? "is" r).isSome then none
        else
          let (arg, r) ← primary fuel r
          let (arg, r) ← suffixes fuel arg r
          return (.test n e [arg] [], r)
    | _ => none
  termination_by structural fuel

/-- The arguments of a filter, a test or a call up to the closing bracket; those with names come last. -/
def arguments (fuel : Nat) (ts : List Token) :
    Option (List Expr × List (String × Expr) × List Token) :=
  match fuel with
  | 0 => none
  | fuel + 1 =>
    match afterOp? ")" ts with
    | some r => some ([], [], r)
    | none =>
      let more (r : List Token) : Option (List Expr × List (String × Expr) × List Token) :=
        match afterOp? ")" r with
        | some r => some ([], [], r)
        | none => do arguments fuel (← afterOp? "," r)
      match ts with
      | .name n :: .op "=" :: r => do
        let (e, r) ← expression fuel true r
        let (args, named, r) ← more r
        if args.isEmpty then return ([], (n, e) :: named, r) else none
      | _ => do
        let (e, r) ← expression fuel true ts
        let (args, named, r) ← more r
        return (e :: args, named, r)
  termination_by structural fuel

end

/-- How deep the grammar goes for each token. -/
def fuelFor (ts : List Token) : Nat := 16 * ts.length + 32

def tupleOf (withChoice : Bool) (ts : List Token) : Option (Expr × List Token) :=
  tuple (fuelFor ts) false withChoice ts

def tested (ts : List Token) : Option (Expr × List Token) := expression (fuelFor ts) true ts

def filtersOf? (e : Expr) (ts : List Token) : Option Expr :=
  match filters (fuelFor ts) e ts with
  | some (e, []) => some e
  | _ => none

def whole? (ts : List Token) : Option Expr :=
  match tupleOf true ts with
  | some (e, []) => some e
  | _ => none

end Grammar
end ClientCompiler.Template
