import ClientCompiler.Template.Access
import ClientCompiler.Template.Expr

/-!
What is computed from data: arithmetic and comparisons. Left out are the formatting of texts by a sign
of percent and powers of floating point numbers, which do not fit here.
-/

namespace ClientCompiler.Template.Datum

/-! ## Arithmetic -/

/-- A number as floating point; an integer may be too large for it. -/
def double? : Datum → Option (Rendering Double)
  | .float x => some (.ok x)
  | d => d.int?.map fun i =>
    match Double.ofInt i with
    | .infinite _ => .error .overflow
    | x => .ok x

def numeric (ints : Int → Int → Int) (doubles : Double → Double → Double) (a b : Datum) :
    Rendering Datum :=
  match a.int?, b.int? with
  | some i, some j => .ok (.int (ints i j))
  | _, _ =>
    match a.double?, b.double? with
    | some x, some y => do return .float (doubles (← x) (← y))
    | _, _ => unfit

def add (a b : Datum) : Rendering Datum :=
  match a, b with
  | .list xs, .list ys => .ok (.list (xs ++ ys))
  | .tuple xs, .tuple ys => .ok (.tuple (xs ++ ys))
  | _, _ =>
    match a.text?, b.text? with
    | some s, some t => .ok (.text (s ++ t))
    | _, _ => numeric (· + ·) Double.add a b

def repeated {α : Type} (n : Int) (xs : List α) : List α := (List.replicate n.toNat xs).flatten

def timesInt? (d : Datum) (n : Int) : Option Datum :=
  match d with
  | .list xs => some (.list (repeated n xs))
  | .tuple xs => some (.tuple (repeated n xs))
  | _ => d.text?.map fun s => .text (repeated n s)

def mul (a b : Datum) : Rendering Datum :=
  match a.int?.bind b.timesInt?, b.int?.bind a.timesInt? with
  | some d, _ => .ok d
  | none, some d => .ok d
  | none, none => numeric (· * ·) Double.mul a b

/-- The quotient of floating point numbers that are not both finite, or of any other ones. -/
def quotient (x y : Double) : Double :=
  let negative := x.isNegative != y.isNegative
  match x.toRatio?, y.toRatio? with
  | some (n, d), some (m, e) => Double.ofRatio negative (n.natAbs * e) (d * m.natAbs)
  | some _, none => if y = .nan then .nan else .finite negative 0 (-1074)
  | none, some _ => if x = .nan then .nan else .infinite negative
  | none, none => .nan

def div (a b : Datum) : Rendering Datum :=
  match a.int?, b.int? with
  | some i, some j =>
    if j = 0 then .error .divisionByZero
    else match Double.ofRatio ((i < 0) != (j < 0)) i.natAbs j.natAbs with
      | .infinite _ => .error .overflow
      | x => .ok (.float x)
  | _, _ =>
    match a.double?, b.double? with
    | some x, some y => do
      let x ← x
      let y ← y
      if y.isZero then .error .divisionByZero else return .float (quotient x y)
    | _, _ => unfit

def remainder (x y : Double) : Double :=
  match x.toRatio?, y.toRatio? with
  | some (n, d), some (m, e) => Double.ofRatio x.isNegative ((n * e).tmod (m * d)).natAbs (d * e)
  | some _, none => if y = .nan then .nan else x
  | none, _ => .nan

def isTurned (r y : Double) : Bool := !r.isZero && r != .nan && r.isNegative != y.isNegative

/-- What a division downwards leaves; a remainder of zero has the sign of what is divided by. -/
def modulo (x y : Double) : Double :=
  let r := remainder x y
  if r.isZero then .finite y.isNegative 0 (-1074) else if isTurned r y then r.add y else r

/-- The whole number below or at a quotient that is a whole number but for its rounding. -/
def floorOfQuotient (q : Double) : Double :=
  match q.toRatio? with
  | some (n, d) =>
    let below := n / d
    let floor := if 2 * (n - below * d) > d then below + 1 else below
    Double.ofRatio q.isNegative floor.natAbs 1
  | none => q

def floorQuotient (x y : Double) : Double :=
  let r := remainder x y
  let q := quotient (x.add r.neg) y
  let q := if isTurned r y then q.add (Double.ofInt (-1)) else q
  if q.isZero then .finite (x.isNegative != y.isNegative) 0 (-1074) else floorOfQuotient q

def divided (ints : Int → Int → Int) (doubles : Double → Double → Double) (a b : Datum) :
    Rendering Datum :=
  match a.int?, b.int? with
  | some i, some j => if j = 0 then .error .divisionByZero else .ok (.int (ints i j))
  | _, _ =>
    match a.double?, b.double? with
    | some x, some y => do
      let x ← x
      let y ← y
      if y.isZero then .error .divisionByZero else return .float (doubles x y)
    | _, _ => unfit

def floorDiv (a b : Datum) : Rendering Datum := divided Int.fdiv floorQuotient a b

def mod (a b : Datum) : Rendering Datum := divided Int.fmod modulo a b

/-- A power of an integer; a negative exponent makes a fraction. -/
def pow (a b : Datum) : Rendering Datum :=
  match a.int?, b.int? with
  | some i, some j =>
    if 0 ≤ j then .ok (.int (i.pow j.toNat))
    else if i = 0 then .error .divisionByZero
    else .ok (.float (Double.ofRatio (i < 0 && j % 2 ≠ 0) 1 (i.natAbs.pow j.natAbs)))
  | _, _ => unfit

def defined (f : Datum → Datum → Rendering Datum) (a b : Datum) : Rendering Datum :=
  if a.isUndefined || b.isUndefined then ofTemplate else f a b

def negative (d : Datum) : Rendering Datum :=
  match d with
  | .undefined => ofTemplate
  | .float x => .ok (.float x.neg)
  | _ => match d.int? with
    | some i => .ok (.int (-i))
    | none => unfit

def positive (d : Datum) : Rendering Datum :=
  match d with
  | .undefined => ofTemplate
  | .float x => .ok (.float x)
  | _ => match d.int? with
    | some i => .ok (.int i)
    | none => unfit

/-! ## Comparison -/

/-- The order of two numbers; none if one of them is no number at all. -/
def compareNumbers (x y : Double) : Option Ordering :=
  match x.toRatio?, y.toRatio? with
  | some (n, d), some (m, e) => some (compare (n * e) (m * d))
  | _, _ =>
    if x = .nan || y = .nan then none
    else if x = y then some .eq
    else match x, y with
      | .infinite negative, _ => some (if negative then .lt else .gt)
      | _, .infinite negative => some (if negative then .gt else .lt)
      | _, _ => none

/-- The order of a floating point number and an integer, which is exact. -/
def compareWithInt (x : Double) (i : Int) : Option Ordering :=
  match x with
  | .nan => none
  | .infinite negative => some (if negative then .lt else .gt)
  | x => x.toRatio?.map fun (n, d) => compare n (i * d)

def compareTexts : List Char → List Char → Ordering
  | [], [] => .eq
  | [], _ => .lt
  | _, [] => .gt
  | c :: s, d :: t => (compare c.toNat d.toNat).then (compareTexts s t)

def orderOf (a b : Datum) : Rendering (Option Ordering) :=
  if a.isUndefined || b.isUndefined then ofTemplate
  else match a.text?, b.text? with
    | some s, some t => .ok (some (compareTexts s t))
    | _, _ =>
      match a, b, a.int?, b.int? with
      | _, _, some i, some j => .ok (some (compare i j))
      | .float x, .float y, _, _ => .ok (compareNumbers x y)
      | .float x, _, _, some j => .ok (compareWithInt x j)
      | _, .float y, some i, _ => .ok ((compareWithInt y i).map Ordering.swap)
      | _, _, _, _ => unfit

mutual

/-- Lists are ordered by the first items that differ, or else by their lengths. -/
def ordered (holds : Ordering → Bool) : Datum → Datum → Rendering Bool
  | .list xs, .list ys => orderedItems holds xs ys
  | .tuple xs, .tuple ys => orderedItems holds xs ys
  | a, b => (orderOf a b).map fun o => o.any holds

def orderedItems (holds : Ordering → Bool) : List Datum → List Datum → Rendering Bool
  | [], [] => .ok (holds .eq)
  | [], _ => .ok (holds .lt)
  | _, [] => .ok (holds .gt)
  | x :: xs, y :: ys => if same x y then orderedItems holds xs ys else ordered holds x y

end

def within (a b : Datum) : Rendering Bool :=
  match b.text? with
  | some t => match a.text? with
    | some s => .ok (Text.occurs s t)
    | none => unfit
  | none => do return (← b.items).any a.same

def compared (a : Datum) (c : Comparison) (b : Datum) : Rendering Bool :=
  match c with
  | .equal => .ok (a.same b)
  | .unequal => .ok (!a.same b)
  | .less => ordered (· == .lt) a b
  | .lessOrEqual => ordered (· != .gt) a b
  | .greater => ordered (· == .gt) a b
  | .greaterOrEqual => ordered (· != .lt) a b
  | .within => within a b
  | .notWithin => (within a b).map (!·)

end ClientCompiler.Template.Datum
