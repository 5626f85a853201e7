import ClientCompiler.Client.Manifest
import ClientCompiler.Fault
import ClientCompiler.Text.Utf8

/-!
Reading values as records. All fields of a record are checked, in the order of their declaration,
and every complaint is kept. A text is never made from a number or a truth value.
-/

namespace ClientCompiler

abbrev Checked (α : Type) := Except (List Issue) α

namespace Checked

variable {α β : Type}

def refuse (c : Complaint) : Checked α := .error [⟨[], c⟩]

def within (p : Place) : Checked α → Checked α
  | .ok a => .ok a
  | .error issues => .error (issues.map fun i => ⟨p :: i.path, i.complaint⟩)

def also (f : Checked (α → β)) (a : Checked α) : Checked β :=
  match f, a with
  | .ok f, .ok a => .ok (f a)
  | .ok _, .error e => .error e
  | .error e, .ok _ => .error e
  | .error e, .error e' => .error (e ++ e')

def itemsFrom (check : Value → Checked α) (i : Nat) : List Value → Checked (List α)
  | [] => .ok []
  | v :: vs =>
    also (within (.index i) ((check v).map List.cons)) (itemsFrom check (i + 1) vs)

end Checked

namespace Validation

open Checked

/-- A text, which may stand there as its octets. -/
def text : Value → Checked String
  | .str s => .ok s
  | .bytes b => match Text.decode? b with
    | some s => .ok (String.ofList s)
    | none => refuse .notUnicode
  | _ => refuse .notString

def optionalText : Value → Checked (Option String)
  | .null => .ok none
  | v => (text v).map some

def boolWord? (s : String) : Option Bool :=
  let w := String.ofList (Text.lowerAscii s.toList)
  if ["1", "on", "t", "true", "y", "yes"].contains w then some true
  else if ["0", "off", "f", "false", "n", "no"].contains w then some false
  else none

def boolNumber? (i : Int) : Option Bool :=
  if i = 0 then some false else if i = 1 then some true else none

def whole? (x : Double) : Option Int :=
  match x.toRatio? with
  | some (n, d) => if n % d = 0 then some (n / d) else none
  | none => none

/-- A truth value; also the numbers zero and one, and a few words. -/
def boolean : Value → Checked Bool
  | .bool b => .ok b
  | .str s => match boolWord? s with
    | some b => .ok b
    | none => refuse .unreadableBoolean
  | .int i => match boolNumber? i with
    | some b => .ok b
    | none => refuse (if i.natAbs < Nat.pow 2 1024 then .unreadableBoolean else .notBoolean)
  | .float x => match whole? x with
    | some i => match boolNumber? i with
      | some b => .ok b
      | none => refuse .unreadableBoolean
    | none => refuse .notBoolean
  | _ => refuse .notBoolean

def listOf {α : Type} (check : Value → Checked α) : Value → Checked (List α)
  | .list vs => itemsFrom check 0 vs
  | .tuple vs => itemsFrom check 0 vs
  | _ => refuse .notList

def record : Value → Checked Value.Entries
  | .map kvs => .ok kvs
  | _ => refuse .notRecord

def required {α : Type} (name : String) (check : Value → Checked α) (kvs : Value.Entries) : Checked α :=
  match Value.field name kvs with
  | some v => within (.name name) (check v)
  | none => within (.name name) (refuse .missing)

def withDefault {α : Type} (name : String) (a : α) (check : Value → Checked α) (kvs : Value.Entries) :
    Checked α :=
  match Value.field name kvs with
  | some v => within (.name name) (check v)
  | none => .ok a

/-- The one of two names under which a field is written; the first name comes first. -/
def writtenName (name other : String) (kvs : Value.Entries) : String :=
  if (Value.field name kvs).isNone && (Value.field other kvs).isSome then other else name

def member {α : Type} (ofName? : String → Option α) : Value → Checked α
  | .str s => match ofName? s with
    | some a => .ok a
    | none => refuse .notMember
  | _ => refuse .notMember

def property (v : Value) : Checked Property :=
  (record v).bind fun kvs =>
    also (also (also (also (.ok Property.mk) (required "name" text kvs))
      (withDefault "type" "any" text kvs)) (withDefault "required" false boolean kvs))
      (withDefault "description" none optionalText kvs)

def model (v : Value) : Checked Model :=
  (record v).bind fun kvs =>
    also (also (also (also (.ok Model.mk) (required "name" text kvs))
      (withDefault "title" none optionalText kvs)) (withDefault "generics" [] (listOf text) kvs))
      (withDefault "properties" [] (listOf property) kvs)

def parameter (v : Value) : Checked Parameter :=
  (record v).bind fun kvs =>
    also (also (also (also (.ok Parameter.mk) (required "name" text kvs))
      (required (writtenName "in" "location" kvs) (member Location.ofName?) kvs))
      (withDefault "type" "any" text kvs)) (withDefault "required" false boolean kvs)

def operation (v : Value) : Checked Operation :=
  (record v).bind fun kvs =>
    also (also (also (also (also (also (.ok Operation.mk) (required "name" text kvs))
      (required "method" (member Method.ofName?) kvs)) (required "path" text kvs))
      (withDefault "description" none optionalText kvs))
      (withDefault (writtenName "returnType" "return_type" kvs) "" text kvs))
      (withDefault "parameters" [] (listOf parameter) kvs)

def apiModule (v : Value) : Checked ApiModule :=
  (record v).bind fun kvs =>
    also (also (also (also (.ok ApiModule.mk) (required "name" text kvs))
      (withDefault "description" none optionalText kvs))
      (withDefault "operations" [] (listOf operation) kvs))
      (withDefault "imports" [] (listOf text) kvs)

/-- The place that a key of any kind stands for; an integer beyond 64 bits stands as its digits. -/
def keyPlace : Value → Place
  | .str s => .name s
  | .int i =>
    if -Int.pow 2 63 ≤ i && i < Int.pow 2 63 then .index i else .name (String.ofList (intText i))
  | .bool b => .index (if b then 1 else 0)
  | v => .name (String.ofList v.shown)

def textKeys : Value.Entries → Checked Value.Entries
  | [] => .ok []
  | (k, v) :: kvs =>
    also ((within (keyPlace k) (within (.name "[key]") (text k))).map fun s rest => (.str s, v) :: rest)
      (textKeys kvs)

/-- A map whose keys are texts. Keys that turn out to be the same text share one entry. -/
def textKeyed : Value → Checked Value.Entries
  | .map kvs =>
    if kvs.all (·.1.isStr) then .ok kvs else (textKeys kvs).map Value.ofPairs
  | _ => refuse .notMap

def client (v : Value) : Checked Client :=
  (record v).bind fun kvs =>
    also (also (also (.ok Client.mk) (withDefault "models" [] (listOf model) kvs))
      (withDefault "modules" [] (listOf apiModule) kvs))
      (withDefault "raw_spec" [] textKeyed kvs)

end Validation

def Checked.orFault {α : Type} : Checked α → Except Fault α
  | .ok a => .ok a
  | .error issues => .error (.invalid issues)

end ClientCompiler
