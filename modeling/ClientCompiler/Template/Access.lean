import ClientCompiler.Template.Datum
import ClientCompiler.Text.Digit
import ClientCompiler.Number.Reading

/-!
What is reached from a datum: its items, its attributes, the item at a place, and a run of items.
What is not there is undefined; nothing is reached from what is undefined.
-/

namespace ClientCompiler.Template

namespace Datum

/-! ## What can be done with a datum -/

def commonActions : List String := ["__class__", "__delattr__", "__dir__", "__doc__", "__eq__",
  "__format__", "__ge__", "__getattribute__", "__getstate__", "__gt__", "__hash__", "__init__",
  "__init_subclass__", "__le__", "__lt__", "__ne__", "__new__", "__reduce__", "__reduce_ex__",
  "__repr__", "__setattr__", "__sizeof__", "__str__", "__subclasshook__"]

def sequenceActions : List String := ["__add__", "__contains__", "__getitem__", "__iter__",
  "__len__", "__mul__", "__rmul__"]

def textActions : List String := ["capitalize", "casefold", "center", "count", "encode",
  "endswith", "expandtabs", "find", "format", "format_map", "index", "isalnum", "isalpha",
  "isascii", "isdecimal", "isdigit", "isidentifier", "islower", "isnumeric", "isprintable",
  "isspace", "istitle", "isupper", "join", "ljust", "lower", "lstrip", "maketrans", "partition",
  "removeprefix", "removesuffix", "replace", "rfind", "rindex", "rjust", "rpartition", "rsplit",
  "rstrip", "split", "splitlines", "startswith", "strip", "swapcase", "title", "translate",
  "upper", "zfill", "__mod__", "__rmod__", "__getnewargs__"] ++ sequenceActions

def listActions : List String := ["append", "clear", "copy", "count", "extend", "index", "insert",
  "pop", "remove", "reverse", "sort", "__delitem__", "__iadd__", "__imul__", "__reversed__",
  "__setitem__"] ++ sequenceActions

def tupleActions : List String := ["count", "index", "__getnewargs__"] ++ sequenceActions

def intActions : List String := ["as_integer_ratio", "bit_count", "bit_length", "conjugate",
  "from_bytes", "to_bytes", "__abs__", "__add__", "__bool__", "__float__", "__index__", "__int__",
  "__mul__", "__neg__", "__sub__"]

def floatActions : List String := ["as_integer_ratio", "conjugate", "fromhex", "hex",
  "is_integer", "__abs__", "__add__", "__bool__", "__float__", "__int__", "__mul__", "__neg__",
  "__sub__"]

def streamActions : List String := ["close", "send", "throw", "gi_code", "gi_frame", "__iter__",
  "__next__"]

def recordActions : List String := ["construct", "copy", "dict", "from_orm", "json",
  "model_construct", "model_copy", "model_dump", "model_dump_json", "model_fields",
  "model_fields_set", "model_json_schema", "model_parametrized_name", "model_post_init",
  "model_rebuild", "model_validate", "model_validate_json", "model_validate_strings",
  "parse_file", "parse_obj", "parse_raw", "schema", "schema_json", "update_forward_refs",
  "validate", "__dict__", "__fields__", "__iter__", "__module__"]

/-- What can be done with a datum of some kind, as a datum. -/
def actionOf? (kind : String) (actions : List String) (n : String) : Option Datum :=
  if actions.contains n then some (.object ("built-in method " ++ n ++ " of " ++ kind ++ " object"))
  else none

def kindName : Datum → String
  | .undefined => "Undefined"
  | .nothing => "NoneType"
  | .bool _ => "bool"
  | .int _ => "int"
  | .float _ => "float"
  | .text _ => "str"
  | .list _ => "list"
  | .tuple _ => "tuple"
  | .stream .. => "generator"
  | .record kind _ => kind
  | .member choice .. => choice.kind
  | .turn .. => "LoopContext"
  | .handle .. => "dict"
  | .object _ => "builtin_function_or_method"

/-! ## Attributes -/

def intAttribute? (i : Int) (n : String) : Option Datum :=
  if n = "real" || n = "numerator" then some (.int i)
  else if n = "imag" then some (.int 0)
  else if n = "denominator" then some (.int 1)
  else actionOf? "int" intActions n

def floatAttribute? (x : Double) (n : String) : Option Datum :=
  if n = "real" then some (.float x)
  else if n = "imag" then some (.float Double.zero)
  else actionOf? "float" floatActions n

/-- Records of these kinds may be made from the names of their fields and from the written names. -/
def isMadeByEitherName (kind : String) : Bool := ["Operation", "Parameter"].contains kind

def recordAttribute? (kind : String) (fields : List (String × Datum)) (n : String) :
    Option Datum :=
  match fields.lookup n with
  | some d => some d
  | none =>
    if n = "model_extra" then some .nothing
    else if n = "model_computed_fields" then some (.handle "\x7b\x7d" false)
    else if n = "model_config" then
      if isMadeByEitherName kind then some (.handle "\x7b'populate_by_name': True\x7d" true)
      else some (.handle "\x7b\x7d" false)
    else actionOf? kind recordActions n

def memberAttribute? (choice : Choice) (name : String) (value : List Char) (n : String) :
    Option Datum :=
  if n = "value" then some (.text value)
  else if n = "name" then some (ofString name)
  else match choice.members.lookup n with
    | some other => some (.member choice n other)
    | none => actionOf? choice.kind textActions n

def turnAttribute? (index : Nat) (items : List Datum) (n : String) : Option Datum :=
  let left := items.length - index
  match n with
  | "index" => some (.int (index + 1))
  | "index0" => some (.int index)
  | "revindex" => some (.int left)
  | "revindex0" => some (.int (left - 1))
  | "first" => some (.bool (index = 0))
  | "last" => some (.bool (index + 1 = items.length))
  | "length" => some (.int items.length)
  | "previtem" => some (if index = 0 then .undefined else items.getD (index - 1) .undefined)
  | "nextitem" => some (items.getD (index + 1) .undefined)
  | "depth" => some (.int 1)
  | "depth0" => some (.int 0)
  | n => actionOf? "LoopContext" ["cycle", "changed", "__iter__", "__len__", "__next__"] n

def ownAttribute? (d : Datum) (n : String) : Option Datum :=
  match d with
  | .bool b => intAttribute? (if b then 1 else 0) n
  | .int i => intAttribute? i n
  | .float x => floatAttribute? x n
  | .text _ => actionOf? d.kindName textActions n
  | .list _ => actionOf? d.kindName listActions n
  | .tuple _ => actionOf? d.kindName tupleActions n
  | .stream .. => actionOf? d.kindName streamActions n
  | .record kind fields => recordAttribute? kind fields n
  | .member choice name value => memberAttribute? choice name value n
  | .turn index items => turnAttribute? index items n
  | _ => none

def attributeNamed (d : Datum) (n : String) : Rendering Datum :=
  match (d.ownAttribute? n).or (actionOf? d.kindName commonActions n), d with
  | some a, _ => .ok a
  | none, .undefined => ofTemplate
  | none, _ => .ok .undefined

theorem attributeNamed_record_of_lookup {kind n : String} {fields : List (String × Datum)} {d : Datum}
    (h : fields.lookup n = some d) : (record kind fields).attributeNamed n = .ok d := by
  simp [attributeNamed, ownAttribute?, recordAttribute?, h]

/-! ## Items -/

def items : Datum → Rendering (List Datum)
  | .list xs => .ok xs
  | .tuple xs => .ok xs
  | .stream _ xs none => .ok xs
  | .stream _ _ (some f) => .error f
  | .text s => .ok (s.map fun c => .text [c])
  | .member _ _ value => .ok (value.map fun c => .text [c])
  | .record _ fields => .ok (fields.map fun (k, v) => .tuple [ofString k, v])
  | .undefined => .ok []
  | _ => unfit

/-- The item at a place, counted from the end if it is negative. -/
def itemAt (xs : List Datum) (i : Int) : Datum :=
  let place := if i < 0 then i + xs.length else i
  if place < 0 then .undefined else (xs[place.toNat]?).getD .undefined

def placed? : Datum → Option (List Datum)
  | .list xs => some xs
  | .tuple xs => some xs
  | d => d.text?.map fun s => s.map fun c => .text [c]

/-- What stands at an index: an item at a place, or else the attribute that a text names. -/
def item (d index : Datum) : Rendering Datum :=
  match d, index with
  | .undefined, _ => ofTemplate
  | d, .text n => d.attributeNamed (String.ofList n)
  | d, index =>
    match d.placed?, index.int? with
    | some xs, some i => .ok (itemAt xs i)
    | _, _ => .ok .undefined

def pathStep (word : List Char) : Rendering Datum :=
  if word.isEmpty || !word.all Text.isDigit then .ok (.text word)
  else if word.all Text.isDecimal && word.length ≤ maxDecimalDigits then
    .ok (.int (ofDigits (word.map Text.plainDigit)))
  else badValue

/-- The steps of a path. A text is a path with points between its steps, nothing is a path without
a step, and anything else is one step. -/
def pathSteps (path : Datum) : Rendering (List Datum) :=
  match path, path.text? with
  | .nothing, _ => .ok []
  | _, some s => (Text.splitOn '.' s).mapM pathStep
  | _, none => .ok [path]

def follow (d : Datum) (steps : List Datum) : Rendering Datum := steps.foldlM item d

/-! ## Runs of items -/

/-- The place that a bound of a run means, between `low` and `high`. -/
def boundPlace (count low high : Int) (i : Int) : Int :=
  max low (min (if i < 0 then i + count else i) high)

/-- The places of a run of `count` items from a first bound up to a second one, which is left out. -/
def runPlaces (count : Nat) (first last : Option Int) (step : Int) : List Nat :=
  let n : Int := count
  if 0 < step then
    let a := (first.map (boundPlace n 0 n)).getD 0
    let b := (last.map (boundPlace n 0 n)).getD n
    (List.range ((b - a + step - 1) / step).toNat).map fun i : Nat => (a + i * step).toNat
  else
    let a := (first.map (boundPlace n (-1) (n - 1))).getD (n - 1)
    let b := (last.map (boundPlace n (-1) (n - 1))).getD (-1)
    (List.range ((a - b - step - 1) / -step).toNat).map fun i : Nat => (a + i * step).toNat

def runBound : Option Datum → Rendering (Option Int)
  | none => .ok none
  | some .nothing => .ok none
  | some d => match d.int? with
    | some i => .ok (some i)
    | none => unfit

def run (d : Datum) (first last step : Option Datum) : Rendering Datum :=
  let chosen {α : Type} (xs : List α) : Rendering (List α) := do
    let step := (← runBound step).getD 1
    if step = 0 then badValue
    else
      let first ← runBound first
      let last ← runBound last
      return (runPlaces xs.length first last step).filterMap (xs[·]?)
  match d with
  | .undefined => ofTemplate
  | .list xs => (chosen xs).map .list
  | .tuple xs => (chosen xs).map .tuple
  | d => match d.text? with
    | some s => (chosen s).map .text
    | none => unfit

end Datum
end ClientCompiler.Template
