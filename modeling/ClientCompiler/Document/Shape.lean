import ClientCompiler.Client.Validation
import ClientCompiler.Traced

/-!
Taking values apart where a document may hold anything: what is asked of a value of an unexpected
kind is a fault of its own sort.
-/

namespace ClientCompiler.Shape

def entries : Value → Except Fault Value.Entries
  | .map kvs => .ok kvs
  | _ => .error .noMember

def orEmptyMap (v : Value) : Value := if v.truthy then v else .map []

def orEmptyList (v : Value) : Value := if v.truthy then v else .list []

/-- The items of a value in order: the keys of a map, the characters of a text. -/
def items : Value → Except Fault (List Value)
  | .list xs => .ok xs
  | .tuple xs => .ok xs
  | .set xs => .ok xs
  | .map kvs => .ok (kvs.map (·.1))
  | .str s => .ok (s.toList.map fun c => .str (String.singleton c))
  | .bytes b => .ok (b.map fun o => .int o.toNat)
  | _ => .error .unfit

def members (v : Value) : Except Fault (List Value) := do
  let xs ← items v
  if Value.allHashable xs then return xs else throw .unfit

/-- Whether a value lies in another: as an item, as a key, or as a part of a text. -/
def contains (whole part : Value) : Except Fault Bool :=
  match whole with
  | .list xs => .ok (xs.any (part.same ·))
  | .tuple xs => .ok (xs.any (part.same ·))
  | .set xs => if part.hashable then .ok (xs.any (part.same ·)) else .error .unfit
  | .map kvs => if part.hashable then .ok (kvs.any (part.same ·.1)) else .error .unfit
  | .str s => match part with
    | .str p => .ok (Text.occurs p.toList s.toList)
    | _ => .error .unfit
  | .bytes b => match part with
    | .int i => if 0 ≤ i && i < 256 then .ok (b.any fun o => o.toNat == i.toNat) else .error .badValue
    | _ => .error .unfit
  | _ => .error .unfit

def textAt (place : String) (v : Value) : List Issue :=
  match Checked.within (.name place) (Validation.text v) with
  | .ok _ => []
  | .error issues => issues

def optionalTextAt (place : String) : Value → List Issue
  | .null => []
  | v => textAt place v

def accept (issues : List Issue) : Except Fault Unit :=
  if issues.isEmpty then .ok () else .error (.invalid issues)

def text? (v : Value) : Option String := (Validation.text v).toOption

def textD (v : Value) : String := (text? v).getD ""

end ClientCompiler.Shape
