import ClientCompiler.Value
import ClientCompiler.Text.Printable

/-!
The text of a value in messages and comments: a string stands for itself at the top and is quoted
inside a collection.
-/

namespace ClientCompiler.Value

def hexDigit (n : Nat) : Char := (Nat.toDigits 16 n).headD '0'

def hexText : Nat → Nat → List Char
  | 0, _ => []
  | width + 1, n => hexText width (n / 16) ++ [hexDigit (n % 16)]

def quotedChar (q : Char) (c : Char) : List Char :=
  let n := c.toNat
  if c = q || c = '\\' then ['\\', c]
  else if c = '\n' then ['\\', 'n']
  else if c = '\r' then ['\\', 'r']
  else if c = '\t' then ['\\', 't']
  else if Text.isPrintable c then [c]
  else if n < 0x100 then '\\' :: 'x' :: hexText 2 n
  else if n < 0x10000 then '\\' :: 'u' :: hexText 4 n
  else '\\' :: 'U' :: hexText 8 n

/-- Single quotes, unless only they occur in the text. -/
def quoteFor (s : List Char) : Char := if s.contains '\'' && !s.contains '"' then '"' else '\''

def quoted (s : List Char) : List Char :=
  let q := quoteFor s
  q :: s.flatMap (quotedChar q) ++ [q]

/-- Octets in quotes, the ones outside printable ASCII in hexadecimal. -/
def quotedOctets (octets : List UInt8) : List Char :=
  let s := octets.map fun b => Char.ofNat b.toNat
  let q := quoteFor s
  let one (c : Char) : List Char :=
    if c.toNat < 0x7F then quotedChar q c else '\\' :: 'x' :: hexText 2 c.toNat
  'b' :: q :: s.flatMap one ++ [q]

def joined (sep : List Char) : List (List Char) → List Char
  | [] => []
  | [p] => p
  | p :: q :: ps => p ++ sep ++ joined sep (q :: ps)

def commaSeparated (pieces : List (List Char)) : List Char := joined [',', ' '] pieces

def dateCall (d : Date) : List Char :=
  "datetime.date(".toList ++ commaSeparated [natDigits d.year, natDigits d.month, natDigits d.day] ++
    [')']

def offsetCall (minutes : Int) : List Char :=
  if minutes = 0 then "datetime.timezone.utc".toList
  else
    let seconds := minutes * 60
    let parts := if seconds < 0
      then "days=-1, seconds=".toList ++ intText (seconds + 86400)
      else "seconds=".toList ++ intText seconds
    "datetime.timezone(datetime.timedelta(".toList ++ parts ++ [')', ')']

def momentCall (t : Moment) : List Char :=
  let fields := [t.date.year, t.date.month, t.date.day, t.hour, t.minute] ++
    (if t.microsecond ≠ 0 then [t.second, t.microsecond]
     else if t.second ≠ 0 then [t.second] else [])
  let zone := match t.offset with
    | none => []
    | some m => ["tzinfo=".toList ++ offsetCall m]
  "datetime.datetime(".toList ++ commaSeparated (fields.map natDigits ++ zone) ++ [')']

/-- An integer has a text only if it has at most 4300 digits. -/
def isWritableInteger (i : Int) : Bool := i.natAbs < Nat.pow 10 4300

mutual

def hasLongInteger : Value → Bool
  | .int i => !isWritableInteger i
  | .list xs => anyLongInteger xs
  | .tuple xs => anyLongInteger xs
  | .set xs => anyLongInteger xs
  | .map kvs => anyEntryLongInteger kvs
  | _ => false

def anyLongInteger : List Value → Bool
  | [] => false
  | x :: xs => hasLongInteger x || anyLongInteger xs

def anyEntryLongInteger : List (Value × Value) → Bool
  | [] => false
  | (k, v) :: kvs => hasLongInteger k || hasLongInteger v || anyEntryLongInteger kvs

end

mutual

def shown : Value → List Char
  | .null => "None".toList
  | .bool b => if b then "True".toList else "False".toList
  | .int i => intText i
  | .float x => x.text
  | .str s => quoted s.toList
  | .bytes b => quotedOctets b
  | .date d => dateCall d
  | .moment t => momentCall t
  | .list xs => '[' :: commaSeparated (shownItems xs) ++ [']']
  | .tuple xs => match shownItems xs with
    | [x] => '(' :: x ++ [',', ')']
    | ys => '(' :: commaSeparated ys ++ [')']
  | .set xs => match shownItems xs with
    | [] => "set()".toList
    | ys => '\x7b' :: commaSeparated ys ++ ['\x7d']
  | .map kvs => '\x7b' :: commaSeparated (shownEntries kvs) ++ ['\x7d']
  | .again isMap => (if isMap then "\x7b...\x7d" else "[...]").toList

def shownItems : List Value → List (List Char)
  | [] => []
  | x :: xs => shown x :: shownItems xs

def shownEntries : List (Value × Value) → List (List Char)
  | [] => []
  | (k, v) :: kvs => (shown k ++ ':' :: ' ' :: shown v) :: shownEntries kvs

end

def text : Value → List Char
  | .str s => s.toList
  | .date d => d.text
  | .moment t => t.text
  | v => shown v

def textString (v : Value) : String := String.ofList v.text

end ClientCompiler.Value
