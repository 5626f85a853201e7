import ClientCompiler.Text.Utf8
import ClientCompiler.Yaml.Scalar

/-!
Tags, which say what a node stands for, and how they are written: in full, as a handle and a
suffix, or as a lone exclamation mark.
-/

namespace ClientCompiler.Yaml

inductive Tag where
  | null
  | bool
  | int
  | float
  | binary
  | timestamp
  | omap
  | pairs
  | set
  | str
  | seq
  | map
  | merge
  | value
  | other (uri : String)
  deriving DecidableEq, Repr

def commonTags : String := "tag:yaml.org,2002:"

def Tag.ofName : String → Option Tag
  | "null" => some .null
  | "bool" => some .bool
  | "int" => some .int
  | "float" => some .float
  | "binary" => some .binary
  | "timestamp" => some .timestamp
  | "omap" => some .omap
  | "pairs" => some .pairs
  | "set" => some .set
  | "str" => some .str
  | "seq" => some .seq
  | "map" => some .map
  | "merge" => some .merge
  | "value" => some .value
  | _ => none

def Tag.ofUri (uri : List Char) : Tag :=
  let known := do Tag.ofName (String.ofList (← Text.dropPrefix? commonTags.toList uri))
  known.getD (.other (String.ofList uri))

/-- A tag as it is written. The handle is missing where the suffix is the whole tag. -/
structure WrittenTag where
  handle : Option (List Char)
  suffix : List Char
  deriving DecidableEq, Repr

abbrev TagHandles := List (List Char × List Char)

def defaultHandles : TagHandles := [(['!'], ['!']), (['!', '!'], commonTags.toList)]

/-- A lone exclamation mark leaves the kind of a node open, which is `none`. -/
def WrittenTag.resolve (handles : TagHandles) (t : WrittenTag) :
    Except Failure (Option (List Char)) :=
  let known (uri : List Char) : Option (List Char) := if uri = ['!'] then none else some uri
  match t.handle with
  | none => .ok (known t.suffix)
  | some h =>
    match handles.lookup h with
    | some start => .ok (known (start ++ t.suffix))
    | none => .error .malformed

def isLetterOrDigit (c : Char) : Bool :=
  ('0' ≤ c && c ≤ '9') || ('A' ≤ c && c ≤ 'Z') || ('a' ≤ c && c ≤ 'z')

def isNameChar (c : Char) : Bool := isLetterOrDigit c || c = '-' || c = '_'

def isUriChar (c : Char) : Bool := isLetterOrDigit c || "-;/?:@&=+$,_.!~*'()[]%".toList.contains c

def escapedOctets : Nat → Cursor → Except Failure (List UInt8 × Cursor)
  | 0, c => .ok ([], c)
  | fuel + 1, c =>
    match c.rest with
    | '%' :: a :: b :: _ => do
      if !(isHex a && isHex b) then throw .malformed
      let (r, c) ← escapedOctets fuel (c.advance 3)
      return (UInt8.ofNat (hexNumber [a, b]) :: r, c)
    | '%' :: _ => .error .malformed
    | _ => .ok ([], c)

def uriPieces : Nat → Cursor → Except Failure (List Char × Cursor)
  | 0, c => .ok ([], c)
  | fuel + 1, c => do
    let (run, c) := c.takeRun fun ch => isUriChar ch && ch ≠ '%'
    if c.peek = some '%' then
      let (octets, c) ← escapedOctets (c.rest.length + 1) c
      match Text.decode? octets with
      | none => throw .malformed
      | some text =>
        let (r, c) ← uriPieces fuel c
        return (run ++ text ++ r, c)
    else return (run, c)

def uri (c : Cursor) : Except Failure (List Char × Cursor) := do
  let (text, after) ← uriPieces (c.rest.length + 1) c
  if after.index = c.index then throw .malformed
  return (text, after)

def tagHandle (c : Cursor) : Except Failure (List Char × Cursor) := do
  if c.peek ≠ some '!' then throw .malformed
  let inner := c.next
  if inner.peek = some ' ' then return (['!'], inner)
  let (name, after) := inner.takeRun isNameChar
  if after.peek = some '!' then return ('!' :: name ++ ['!'], after.next) else throw .malformed

def writtenTag (c : Cursor) : Except Failure (WrittenTag × Cursor) := do
  let (tag, c) ← (do
    if c.peekAt 1 = some '<' then
      let (suffix, c) ← uri (c.advance 2)
      if c.peek = some '>' then return (⟨none, suffix⟩, c.next) else throw .malformed
    else if isGap (c.peekAt 1) then return (⟨none, ['!']⟩, c.next)
    else
      let word := (c.rest.drop 1).takeWhile fun ch => !endsWord (some ch)
      let (handle, c) ← if word.contains '!' then tagHandle c else Except.ok (['!'], c.next)
      let (suffix, c) ← uri c
      return (⟨some handle, suffix⟩, c) : Except Failure (WrittenTag × Cursor))
  if endsWord c.peek then return (tag, c) else throw .malformed

end ClientCompiler.Yaml
