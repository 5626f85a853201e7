import ClientCompiler.Calendar

/-!
Dynamic values of documents. A map keeps its entries in order; two keys are the same key when they
are equal as values, so that `1`, `1.0` and `true` are one key. A document may hold a collection in
itself; `again` stands where it goes on in the same way without end.
-/

namespace ClientCompiler

inductive Value where
  | null
  | bool (b : Bool)
  | int (i : Int)
  | float (x : Double)
  | str (s : String)
  | bytes (octets : List UInt8)
  | date (d : Date)
  | moment (t : Moment)
  | list (items : List Value)
  | tuple (items : List Value)
  | set (items : List Value)
  | map (entries : List (Value × Value))
  | again (isMap : Bool)
  deriving Repr, Inhabited

namespace Value

def isStr : Value → Bool
  | .str _ => true
  | _ => false

def isMap : Value → Bool
  | .map _ => true
  | _ => false

def isNull : Value → Bool
  | .null => true
  | _ => false

/-- Everything holds but null, false, zero and what is empty. -/
def truthy : Value → Bool
  | .null => false
  | .bool b => b
  | .int i => i != 0
  | .float x => !x.isZero
  | .str s => !s.isEmpty
  | .bytes b => !b.isEmpty
  | .date _ => true
  | .moment _ => true
  | .list xs => !xs.isEmpty
  | .tuple xs => !xs.isEmpty
  | .set xs => !xs.isEmpty
  | .map kvs => !kvs.isEmpty
  | .again _ => true

def asInt? : Value → Option Int
  | .bool b => some (if b then 1 else 0)
  | .int i => some i
  | _ => none

mutual

/-- Equality of values, as it tells members and keys apart: numbers by their value, where `nan` is
equal to itself, maps and sets without regard to order. -/
def same : Value → Value → Bool
  | .null, .null => true
  | .bool a, w => match w with
    | .float y => y.equalsInt (if a then 1 else 0)
    | _ => w.asInt? == some (if a then 1 else 0)
  | .int a, w => match w with
    | .float y => y.equalsInt a
    | _ => w.asInt? == some a
  | .float x, w => match w with
    | .float y => x.coincides y
    | _ => match w.asInt? with
      | some i => x.equalsInt i
      | none => false
  | .str a, .str b => a == b
  | .bytes a, .bytes b => a == b
  | .date a, .date b => a == b
  | .moment a, .moment b => a.same b
  | .list xs, .list ys => sameItems xs ys
  | .tuple xs, .tuple ys => sameItems xs ys
  | .set xs, .set ys => xs.length == ys.length && allIn xs ys
  | .map kvs, .map lws => kvs.length == lws.length && allEntriesIn kvs lws
  | _, _ => false

def sameItems : List Value → List Value → Bool
  | [], [] => true
  | x :: xs, y :: ys => same x y && sameItems xs ys
  | _, _ => false

def allIn : List Value → List Value → Bool
  | [], _ => true
  | x :: xs, ys => ys.any (same x) && allIn xs ys

def allEntriesIn : List (Value × Value) → List (Value × Value) → Bool
  | [], _ => true
  | (k, v) :: kvs, lws => lws.any (fun (l, w) => same k l && same v w) && allEntriesIn kvs lws

end

mutual

def hashable : Value → Bool
  | .list _ => false
  | .set _ => false
  | .map _ => false
  | .again _ => false
  | .tuple xs => allHashable xs
  | _ => true

def allHashable : List Value → Bool
  | [] => true
  | x :: xs => hashable x && allHashable xs

end

mutual

def isEndless : Value → Bool
  | .again _ => true
  | .list xs => anyEndless xs
  | .tuple xs => anyEndless xs
  | .map kvs => anyEntryEndless kvs
  | _ => false

def anyEndless : List Value → Bool
  | [] => false
  | x :: xs => isEndless x || anyEndless xs

def anyEntryEndless : List (Value × Value) → Bool
  | [] => false
  | (_, v) :: kvs => isEndless v || anyEntryEndless kvs

end

abbrev Entries := List (Value × Value)

def lookup (key : Value) : Entries → Option Value
  | [] => none
  | (k, v) :: kvs => if same k key then some v else lookup key kvs

/-- Stores a value: a known key keeps its place and its spelling, a new key goes last. -/
def insert (key value : Value) : Entries → Entries
  | [] => [(key, value)]
  | (k, v) :: kvs => if same k key then (k, value) :: kvs else (k, v) :: insert key value kvs

def ofPairs (pairs : Entries) : Entries := pairs.foldl (fun kvs kv => insert kv.1 kv.2 kvs) []

def field (name : String) : Entries → Option Value
  | [] => none
  | (.str k, v) :: kvs => if k = name then some v else field name kvs
  | _ :: kvs => field name kvs

def fieldD (name : String) (entries : Entries) : Value := (field name entries).getD .null

theorem field_cons_self (name : String) (v : Value) (kvs : Entries) :
    field name ((.str name, v) :: kvs) = some v := by simp [field]

theorem field_cons_ne {k name : String} (h : k ≠ name) (v : Value) (kvs : Entries) :
    field name ((.str k, v) :: kvs) = field name kvs := by simp [field, h]

end Value
end ClientCompiler
