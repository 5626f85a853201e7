import ClientCompiler.Value.Text

/-!
Writing JSON, two blanks of indentation for each level. Only quotes, backslashes and control
characters are escaped. Dates and other values that JSON lacks are written as their text.
-/

namespace ClientCompiler.Json

inductive Unwritable where
  | key
  | integerTooLong
  | endless
  deriving DecidableEq, Repr

def escapeChar (c : Char) : List Char :=
  if c = '"' || c = '\\' then ['\\', c]
  else if c = '\n' then ['\\', 'n']
  else if c = '\r' then ['\\', 'r']
  else if c = '\t' then ['\\', 't']
  else if c = '\x08' then ['\\', 'b']
  else if c = '\x0c' then ['\\', 'f']
  else if c.toNat < 0x20 then '\\' :: 'u' :: Value.hexText 4 c.toNat
  else [c]

def quote (s : List Char) : List Char := '"' :: s.flatMap escapeChar ++ ['"']

def floatText : Double → List Char
  | .nan => "NaN".toList
  | .infinite neg => if neg then "-Infinity".toList else "Infinity".toList
  | x => x.text

def integerText (i : Int) : Except Unwritable (List Char) :=
  let s := intText i
  if Value.isWritableInteger i then .ok s else .error .integerTooLong

def keyText : Value → Except Unwritable (List Char)
  | .str s => .ok s.toList
  | .null => .ok "null".toList
  | .bool b => .ok (if b then "true".toList else "false".toList)
  | .int i => integerText i
  | .float x => .ok (floatText x)
  | _ => .error .key

def newline (depth : Nat) : List Char := '\n' :: List.replicate (2 * depth) ' '

def block (opening closing : Char) (depth : Nat) (pieces : List (List Char)) : List Char :=
  opening :: newline (depth + 1) ++ Value.joined (',' :: newline (depth + 1)) pieces ++
    newline depth ++ [closing]

mutual

def writeAt (depth : Nat) : Value → Except Unwritable (List Char)
  | .null => .ok "null".toList
  | .bool b => .ok (if b then "true".toList else "false".toList)
  | .int i => integerText i
  | .float x => .ok (floatText x)
  | .str s => .ok (quote s.toList)
  | .list [] => .ok ['[', ']']
  | .list (x :: xs) => (writeItems (depth + 1) (x :: xs)).map (block '[' ']' depth)
  | .tuple [] => .ok ['[', ']']
  | .tuple (x :: xs) => (writeItems (depth + 1) (x :: xs)).map (block '[' ']' depth)
  | .map [] => .ok ['\x7b', '\x7d']
  | .map (kv :: kvs) => (writeEntries (depth + 1) (kv :: kvs)).map (block '\x7b' '\x7d' depth)
  | .bytes b => .ok (quote (Value.bytes b).text)
  | .date d => .ok (quote d.text)
  | .moment t => .ok (quote t.text)
  | .set xs =>
    if (Value.set xs).hasLongInteger then .error .integerTooLong else .ok (quote (Value.set xs).text)
  | .again _ => .error .endless

def writeItems (depth : Nat) : List Value → Except Unwritable (List (List Char))
  | [] => .ok []
  | x :: xs => do
    let s ← writeAt depth x
    let rest ← writeItems depth xs
    return s :: rest

def writeEntries (depth : Nat) : List (Value × Value) → Except Unwritable (List (List Char))
  | [] => .ok []
  | (k, v) :: kvs => do
    let name ← keyText k
    let s ← writeAt depth v
    let rest ← writeEntries depth kvs
    return (quote name ++ ':' :: ' ' :: s) :: rest

end

def write (v : Value) : Except Unwritable (List Char) := writeAt 0 v

mutual

/-- The text of a value on one line; what JSON lacks is written as null. -/
def compact : Value → List Char
  | .null => "null".toList
  | .bool b => if b then "true".toList else "false".toList
  | .int i => intText i
  | .float x => floatText x
  | .str s => quote s.toList
  | .list xs => '[' :: Value.joined [','] (compactItems xs) ++ [']']
  | .map kvs => '\x7b' :: Value.joined [','] (compactEntries kvs) ++ ['\x7d']
  | _ => "null".toList

def compactItems : List Value → List (List Char)
  | [] => []
  | x :: xs => compact x :: compactItems xs

def compactEntries : List (Value × Value) → List (List Char)
  | [] => []
  | (k, v) :: kvs => (quote k.text ++ ':' :: compact v) :: compactEntries kvs

end

end ClientCompiler.Json
