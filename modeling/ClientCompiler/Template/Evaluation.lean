import ClientCompiler.Template.Filter

/-!
The datum that an expression means for given names. An expression that reads no name may be evaluated
ahead of them, which makes it a constant.
-/

namespace ClientCompiler.Template

/-- What names mean; ahead of time they mean nothing at all. -/
inductive Meaning where
  | ahead
  | names (chance : Chance) (value : String → Datum)

namespace Meaning

def name (m : Meaning) (n : String) : Rendering Datum :=
  match m with
  | .ahead => ofTemplate
  | .names _ value => .ok (value n)

/-- A constant. Once names have a meaning it has to be one that can be spelled. -/
def const (m : Meaning) (d : Datum) : Rendering Datum :=
  match m with
  | .ahead => .ok d
  | .names .. => if d.isSpelled then .ok d else .error .unspelled

def later {α : Type} (m : Meaning) (x : Rendering α) : Rendering α :=
  match m with
  | .ahead => ofTemplate
  | .names .. => x

/-- A run of items. Ahead of time a datum without places has an undefined one. -/
def run (m : Meaning) (d : Datum) (first last step : Option Datum) : Rendering Datum :=
  match m, d.run first last step with
  | .ahead, .error .unfit => .ok .undefined
  | _, x => x

/-- The text of a datum. Where things lie is not known ahead of time. -/
def text (m : Meaning) (d : Datum) : Rendering (List Char) :=
  match m with
  | .ahead => if d.isPlaced then ofTemplate else .ok (d.render (.constant 0))
  | .names chance _ => .ok (d.render chance)

/-- What a filter makes of a datum; ahead of time that is made of the data alone. -/
def filtered (m : Meaning) (n : String) (d : Datum) (args : List Datum)
    (named : List (String × Datum)) : Rendering Datum :=
  match m with
  | .ahead =>
    if lateFilters.contains n || Datum.arePlaced (d :: args ++ named.map Prod.snd) then ofTemplate
    else d.filtered (.constant 0) n args named
  | .names chance _ => d.filtered chance n args named

end Meaning

mutual

def Expr.eval (m : Meaning) : Expr → Rendering Datum
  | .const d => m.const d
  | .name n => m.name n
  | .list es => (evalAll m es).map .list
  | .tuple es => (evalAll m es).map .tuple
  | .access e n => do (← e.eval m).attributeNamed n
  | .item e (.span first last step) => do
    let d ← e.eval m
    let first ← evalOption m first
    let last ← evalOption m last
    m.run d first last (← evalOption m step)
  | .item e i => do
    let d ← e.eval m
    d.item (← i.eval m)
  | .span .. => ofTemplate
  | .filter n e args named => do
    let d ← e.eval m
    let args ← evalAll m args
    m.filtered n d args (← evalNamed m named)
  | .test n e args named => do
    let d ← e.eval m
    let args ← evalAll m args
    return .bool (← d.passes n args (← evalNamed m named))
  | .call e n args named => do
    let d ← e.eval m
    let _ ← d.attributeNamed n
    let args ← evalAll m args
    let named ← evalNamed m named
    m.later (d.called n args named)
  | .negative e => do (← e.eval m).negative
  | .positive e => do (← e.eval m).positive
  | .negation e => do return .bool !(← e.eval m).truthy
  | .binary op a b => do
    let x ← a.eval m
    match op with
    | .conj => if x.truthy then b.eval m else return x
    | .disj => if x.truthy then return x else b.eval m
    | .add => Datum.defined Datum.add x (← b.eval m)
    | .sub => Datum.defined (Datum.numeric (· - ·) fun x y => x.add y.neg) x (← b.eval m)
    | .mul => Datum.defined Datum.mul x (← b.eval m)
    | .div => Datum.defined Datum.div x (← b.eval m)
    | .floorDiv => Datum.defined Datum.floorDiv x (← b.eval m)
    | .mod => Datum.defined Datum.mod x (← b.eval m)
    | .pow => Datum.defined Datum.pow x (← b.eval m)
    | .concat => do
      let y ← b.eval m
      return .text ((← m.text x) ++ (← m.text y))
  | .compare a rest => do compareAll m (← a.eval m) rest
  | .choice condition a b => do
    if (← condition.eval m).truthy then a.eval m
    else match b with
      | some b => b.eval m
      | none => m.later (.ok .undefined)

def evalAll (m : Meaning) : List Expr → Rendering (List Datum)
  | [] => .ok []
  | e :: es => do
    let d ← e.eval m
    return d :: (← evalAll m es)

def evalNamed (m : Meaning) : List (String × Expr) → Rendering (List (String × Datum))
  | [] => .ok []
  | (n, e) :: es => do
    let d ← e.eval m
    return (n, d) :: (← evalNamed m es)

def evalOption (m : Meaning) : Option Expr → Rendering (Option Datum)
  | none => .ok none
  | some e => do return some (← e.eval m)

def compareAll (m : Meaning) (a : Datum) : List (Comparison × Expr) → Rendering Datum
  | [] => .ok (.bool true)
  | (c, e) :: rest => do
    let b ← e.eval m
    if ← a.compared c b then compareAll m b rest else return .bool false

end

@[simp] theorem Expr.eval_const (m : Meaning) (d : Datum) : (Expr.const d).eval m = m.const d := by
  rw [Expr.eval]

/-! ## Constants -/

/-- The datum that an expression means whatever the names mean. -/
def Expr.value? (e : Expr) : Option Datum := (e.eval .ahead).toOption

/-- An expression as a constant, if it is one that can stand as such. -/
def Expr.folded (e : Expr) : Expr :=
  match e.value? with
  | some d => if d.isConstant then .const d else e
  | none => e

mutual

def Expr.simplified : Expr → Expr
  | .const d => .const d
  | .name n => .name n
  | .list es => (Expr.list (simplifiedAll es)).folded
  | .tuple es => (Expr.tuple (simplifiedAll es)).folded
  | .access e n => (Expr.access e.simplified n).folded
  | .item e i => (Expr.item e.simplified i.simplified).folded
  | .span a b c => .span (simplifiedOption a) (simplifiedOption b) (simplifiedOption c)
  | .filter n e args named =>
    (Expr.filter n e.simplified (simplifiedAll args) (simplifiedNamed named)).folded
  | .test n e args named =>
    (Expr.test n e.simplified (simplifiedAll args) (simplifiedNamed named)).folded
  | .call e n args named => .call e.simplified n (simplifiedAll args) (simplifiedNamed named)
  | .negative e => (Expr.negative e.simplified).folded
  | .positive e => (Expr.positive e.simplified).folded
  | .negation e => (Expr.negation e.simplified).folded
  | .binary op a b => (Expr.binary op a.simplified b.simplified).folded
  | .compare a rest => (Expr.compare a.simplified (simplifiedCompared rest)).folded
  | .choice c a b => (Expr.choice c.simplified a.simplified (simplifiedOption b)).folded

def simplifiedAll : List Expr → List Expr
  | [] => []
  | e :: es => e.simplified :: simplifiedAll es

def simplifiedNamed : List (String × Expr) → List (String × Expr)
  | [] => []
  | (n, e) :: es => (n, e.simplified) :: simplifiedNamed es

def simplifiedCompared : List (Comparison × Expr) → List (Comparison × Expr)
  | [] => []
  | (c, e) :: es => (c, e.simplified) :: simplifiedCompared es

def simplifiedOption : Option Expr → Option Expr
  | none => none
  | some e => some e.simplified

end

end ClientCompiler.Template
