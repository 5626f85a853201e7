import ClientCompiler.Fault

/-!
What a template works on: texts, numbers, lists, and records with named fields. A name that means
nothing is `undefined`, which is written as nothing.
-/

namespace ClientCompiler.Template

/-- Why nothing is rendered: the template itself, or one of the values in it. -/
inductive RenderFault where
  | template
  | unfit
  | badValue
  | unspelled
  | meaningless
  | divisionByZero
  | overflow
  deriving DecidableEq, Repr

def RenderFault.ofValue? : RenderFault → Option Fault
  | .template => none
  | .unfit => some .unfit
  | .badValue => some .badValue
  | .unspelled => some .unspelled
  | .meaningless => some .meaningless
  | .divisionByZero => some .divisionByZero
  | .overflow => some .overflow

abbrev Rendering (α : Type) := Except RenderFault α

def unfit {α : Type} : Rendering α := .error .unfit

def badValue {α : Type} : Rendering α := .error .badValue

def ofTemplate {α : Type} : Rendering α := .error .template

/-- A kind with named values, each of which serves as a text. -/
structure Choice where
  kind : String
  members : List (String × List Char)
  deriving DecidableEq, Repr, Inhabited

/-- A `stream` is a list that can be gone through but not counted; a broken one fails then. A `turn` is
one turn of a loop, which knows its place among the items. A `handle` is something of which a template
can only ask whether it holds, and an `object` is told by where it lies, such as what could be done
with a datum. -/
inductive Datum where
  | undefined
  | nothing
  | bool (b : Bool)
  | int (i : Int)
  | float (x : Double)
  | text (s : List Char)
  | list (items : List Datum)
  | tuple (items : List Datum)
  | stream (description : String) (items : List Datum) (broken : Option RenderFault)
  | record (kind : String) (fields : List (String × Datum))
  | member (choice : Choice) (name : String) (value : List Char)
  | turn (index : Nat) (items : List Datum)
  | handle (name : String) (holds : Bool)
  | object (description : String)
  deriving Repr, Inhabited

/-- What a rendering has from nothing that is given to it: where in memory a thing lies, and which
one is drawn from so many. Things with one description lie in one place, and what is drawn from as
many is the same each time. -/
structure Chance where
  address : String → Nat
  draw : Nat → Nat

namespace Chance

def constant (n : Nat) : Chance := ⟨fun _ => n, fun _ => n⟩

def objectText (chance : Chance) (description : String) : List Char :=
  '<' :: description.toList ++ " at 0x".toList ++ Value.hexText 12 (chance.address description) ++ ['>']

end Chance

namespace Datum

def ofString (s : String) : Datum := .text s.toList

def ofOption : Option String → Datum
  | some s => ofString s
  | none => .nothing

def isUndefined : Datum → Bool
  | .undefined => true
  | _ => false

def truthy : Datum → Bool
  | .undefined => false
  | .nothing => false
  | .bool b => b
  | .int i => i != 0
  | .float x => !x.isZero
  | .text s => !s.isEmpty
  | .list xs => !xs.isEmpty
  | .tuple xs => !xs.isEmpty
  | .stream .. => true
  | .record .. => true
  | .member _ _ value => !value.isEmpty
  | .turn .. => true
  | .handle _ holds => holds
  | .object _ => true

mutual

def shown (chance : Chance) : Datum → List Char
  | .undefined => "Undefined".toList
  | .nothing => "None".toList
  | .bool b => if b then "True".toList else "False".toList
  | .int i => intText i
  | .float x => x.text
  | .text s => Value.quoted s
  | .list xs => '[' :: Value.commaSeparated (shownItems chance xs) ++ [']']
  | .tuple xs => match shownItems chance xs with
    | [x] => '(' :: x ++ [',', ')']
    | ys => '(' :: Value.commaSeparated ys ++ [')']
  | .stream description .. => chance.objectText description
  | .record kind fields =>
    kind.toList ++ '(' :: Value.commaSeparated (shownFields chance fields) ++ [')']
  | .member choice name value =>
    '<' :: choice.kind.toList ++ '.' :: name.toList ++ ':' :: ' ' :: Value.quoted value ++ ['>']
  | .turn index items =>
    "<LoopContext ".toList ++ natDigits (index + 1) ++ '/' :: natDigits items.length ++ ['>']
  | .handle name _ => name.toList
  | .object description => chance.objectText description

def shownItems (chance : Chance) : List Datum → List (List Char)
  | [] => []
  | x :: xs => shown chance x :: shownItems chance xs

def shownFields (chance : Chance) : List (String × Datum) → List (List Char)
  | [] => []
  | (k, v) :: kvs => (k.toList ++ '=' :: shown chance v) :: shownFields chance kvs

end

def render (chance : Chance) : Datum → List Char
  | .undefined => []
  | .text s => s
  | .record _ fields => Value.joined [' '] (shownFields chance fields)
  | .member choice name _ => choice.kind.toList ++ '.' :: name.toList
  | d => shown chance d

mutual

/-- Whether the text of a datum tells where something lies. -/
def isPlaced : Datum → Bool
  | .stream .. => true
  | .object _ => true
  | .list xs => arePlaced xs
  | .tuple xs => arePlaced xs
  | .record _ fields => fieldsPlaced fields
  | _ => false

def arePlaced : List Datum → Bool
  | [] => false
  | x :: xs => isPlaced x || arePlaced xs

def fieldsPlaced : List (String × Datum) → Bool
  | [] => false
  | (_, x) :: xs => isPlaced x || fieldsPlaced xs

end

def text? : Datum → Option (List Char)
  | .text s => some s
  | .member _ _ value => some value
  | _ => none

def int? : Datum → Option Int
  | .bool b => some (if b then 1 else 0)
  | .int i => some i
  | _ => none

mutual

/-- Equality: numbers by their value, members by the text that they serve as. -/
def same : Datum → Datum → Bool
  | .undefined, d => d.isUndefined
  | .nothing, .nothing => true
  | .bool a, d => match d with
    | .float y => y.equalsInt (if a then 1 else 0)
    | _ => d.int? == some (if a then 1 else 0)
  | .int a, d => match d with
    | .float y => y.equalsInt a
    | _ => d.int? == some a
  | .float x, d => match d with
    | .float y => x.same y
    | _ => d.int?.any x.equalsInt
  | .text s, d => d.text? == some s
  | .member _ _ value, d => d.text? == some value
  | .list xs, .list ys => sameItems xs ys
  | .tuple xs, .tuple ys => sameItems xs ys
  | .record k fs, .record l gs => k == l && sameFields fs gs
  | .turn i xs, .turn j ys => i == j && sameItems xs ys
  | .handle n _, .handle m _ => n == m
  | .object n, .object m => n == m
  | _, _ => false

def sameItems : List Datum → List Datum → Bool
  | [], [] => true
  | x :: xs, y :: ys => same x y && sameItems xs ys
  | _, _ => false

def sameFields : List (String × Datum) → List (String × Datum) → Bool
  | [], [] => true
  | (k, x) :: xs, (l, y) :: ys => k == l && same x y && sameFields xs ys
  | _, _ => false

end

mutual

/-- Whether a datum can stand in an expression as a constant: it is made of texts, numbers, truth
values and nothing. -/
def isConstant : Datum → Bool
  | .nothing => true
  | .bool _ => true
  | .int _ => true
  | .float _ => true
  | .text _ => true
  | .list xs => areConstant xs
  | .tuple xs => areConstant xs
  | _ => false

def areConstant : List Datum → Bool
  | [] => true
  | x :: xs => isConstant x && areConstant xs

end

mutual

/-- Whether every number in a datum has a spelling: the infinite ones have none. -/
def isSpelled : Datum → Bool
  | .float x => x.toRatio?.isSome
  | .list xs => areSpelled xs
  | .tuple xs => areSpelled xs
  | _ => true

def areSpelled : List Datum → Bool
  | [] => true
  | x :: xs => isSpelled x && areSpelled xs

end

@[simp] theorem render_text (chance : Chance) (s : List Char) : (text s).render chance = s := rfl

@[simp] theorem render_ofString (chance : Chance) (s : String) :
    (ofString s).render chance = s.toList := rfl

@[simp] theorem truthy_ofString (s : String) : (ofString s).truthy = !s.toList.isEmpty := rfl

end Datum
end ClientCompiler.Template
