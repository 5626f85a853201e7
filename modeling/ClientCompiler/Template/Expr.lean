import ClientCompiler.Template.Datum

/-!
Expressions of templates, and the names that they read.
-/

namespace ClientCompiler.Template

inductive BinaryOp where
  | add
  | sub
  | concat
  | mul
  | div
  | floorDiv
  | mod
  | pow
  | conj
  | disj
  deriving DecidableEq, Repr

inductive Comparison where
  | equal
  | unequal
  | less
  | lessOrEqual
  | greater
  | greaterOrEqual
  | within
  | notWithin
  deriving DecidableEq, Repr

/-- A `span` is a run of places between colons, which has a meaning only right inside the brackets of
an `item`. A `call` is of something that can be done with a datum. -/
inductive Expr where
  | const (d : Datum)
  | name (n : String)
  | list (items : List Expr)
  | tuple (items : List Expr)
  | access (e : Expr) (n : String)
  | item (e index : Expr)
  | span (first last step : Option Expr)
  | filter (n : String) (e : Expr) (args : List Expr) (named : List (String × Expr))
  | test (n : String) (e : Expr) (args : List Expr) (named : List (String × Expr))
  | call (e : Expr) (n : String) (args : List Expr) (named : List (String × Expr))
  | negative (e : Expr)
  | positive (e : Expr)
  | negation (e : Expr)
  | binary (op : BinaryOp) (a b : Expr)
  | compare (a : Expr) (rest : List (Comparison × Expr))
  | choice (condition a : Expr) (b : Option Expr)
  deriving Repr, Inhabited

/-- The text that a block has written, as a name that no template can spell. -/
def Expr.written : Expr := .name ""

mutual

def Expr.names : Expr → List String
  | .const _ => []
  | .name n => [n]
  | .list es => namesOfAll es
  | .tuple es => namesOfAll es
  | .access e _ => e.names
  | .item e i => e.names ++ i.names
  | .span a b c => namesOfOption a ++ namesOfOption b ++ namesOfOption c
  | .filter _ e args named => e.names ++ namesOfAll args ++ namesOfNamed named
  | .test _ e args named => e.names ++ namesOfAll args ++ namesOfNamed named
  | .call e _ args named => e.names ++ namesOfAll args ++ namesOfNamed named
  | .negative e => e.names
  | .positive e => e.names
  | .negation e => e.names
  | .binary _ a b => a.names ++ b.names
  | .compare a rest => a.names ++ namesOfCompared rest
  | .choice c a b => c.names ++ a.names ++ namesOfOption b

def namesOfAll : List Expr → List String
  | [] => []
  | e :: es => e.names ++ namesOfAll es

def namesOfNamed : List (String × Expr) → List String
  | [] => []
  | (_, e) :: es => e.names ++ namesOfNamed es

def namesOfCompared : List (Comparison × Expr) → List String
  | [] => []
  | (_, e) :: es => e.names ++ namesOfCompared es

def namesOfOption : Option Expr → List String
  | none => []
  | some e => e.names

end

end ClientCompiler.Template
