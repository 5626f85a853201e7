import ClientCompiler.Json.Reader
import ClientCompiler.Number.Reading

/-!
The syntax of JSON. A text is kept as a tree with all its blanks, escapes and forms of numbers, so
that what is written and what is meant are functions of the tree. Beside the standard's words there
are those for floating point numbers without digits. The same place has to be told for an integer
that is too long to be read, also in a text that is no JSON after it.
-/

namespace ClientCompiler.Json

abbrev Space := { s : List Char // ∀ c ∈ s, c ∈ [' ', '\t', '\n', '\r'] }

inductive Word where
  | null
  | true
  | false
  | nan
  | infinity
  | minusInfinity
  deriving DecidableEq, Repr

def Word.text : Word → List Char
  | .null => "null".toList
  | .true => "true".toList
  | .false => "false".toList
  | .nan => "NaN".toList
  | .infinity => "Infinity".toList
  | .minusInfinity => "-Infinity".toList

def Word.value : Word → Value
  | .null => .null
  | .true => .bool Bool.true
  | .false => .bool Bool.false
  | .nan => .float .nan
  | .infinity => .float (.infinite Bool.false)
  | .minusInfinity => .float (.infinite Bool.true)

/-! ## Numbers -/

abbrev Digits := { ds : List Char // ds ≠ [] ∧ ∀ c ∈ ds, c.isDigit = true }

/-- A power of ten; a sign says whether it is negative. -/
structure Power where
  capital : Bool
  sign : Option Bool
  digits : Digits

def Power.signText : Option Bool → List Char
  | none => []
  | some Bool.true => ['-']
  | some Bool.false => ['+']

def Power.text (p : Power) : List Char :=
  (if p.capital then 'E' else 'e') :: (Power.signText p.sign ++ p.digits.val)

def Power.exponent (p : Power) : Int := withSign (p.sign = some Bool.true) (ofDigits p.digits.val)

structure Numeral where
  negative : Bool
  whole : Digits
  /-- A zero stands alone before the point. -/
  noZeros : whole.val.head? = some '0' → whole.val = ['0']
  fraction : Option Digits
  power : Option Power

namespace Numeral

def fractionText : Option Digits → List Char
  | none => []
  | some ds => '.' :: ds.val

def powerText : Option Power → List Char
  | none => []
  | some p => p.text

def text (n : Numeral) : List Char :=
  (if n.negative then ['-'] else []) ++
    (n.whole.val ++ (fractionText n.fraction ++ powerText n.power))

def decimals (n : Numeral) : List Char := (n.fraction.map Subtype.val).getD []

def exponent (n : Numeral) : Int := (n.power.map Power.exponent).getD 0

def isInteger (n : Numeral) : Bool := n.fraction.isNone && n.power.isNone

/-- An integer, or the floating point number nearest to the decimal. -/
def value (n : Numeral) : Value :=
  if n.isInteger then .int (withSign n.negative (ofDigits n.whole.val))
  else .float (Double.ofDecimal n.negative (ofDigits (n.whole.val ++ n.decimals))
    (n.exponent - n.decimals.length))

end Numeral

/-! ## Strings -/

structure Hex where
  digit : Fin 16
  capital : Bool

def Hex.char (h : Hex) : Char :=
  if h.capital then (Nat.digitChar h.digit).toUpper else Nat.digitChar h.digit

def escapes : List (Char × Char) :=
  [('"', '"'), ('\\', '\\'), ('/', '/'), ('b', '\x08'), ('f', '\x0c'), ('n', '\n'), ('r', '\r'),
    ('t', '\t')]

/-- A piece of a string: a character as it is, a short escape, or a code unit in four digits. -/
inductive Piece where
  | plain (c : Char) (allowed : c ≠ '"' ∧ c ≠ '\\' ∧ 0x20 ≤ c.toNat)
  | short (e : { e : Char × Char // e ∈ escapes })
  | unit (a b c d : Hex)

namespace Piece

def text : Piece → List Char
  | plain c _ => [c]
  | short e => ['\\', e.val.1]
  | unit a b c d => ['\\', 'u', a.char, b.char, c.char, d.char]

def point : Piece → Nat
  | plain c _ => c.toNat
  | short e => e.val.2.toNat
  | unit a b c d => ((a.digit * 16 + b.digit) * 16 + c.digit) * 16 + d.digit

end Piece

def stringTail (ps : List Piece) : List Char := ps.flatMap Piece.text ++ ['"']

/-- The text of a string. A pair of code units may stand for one character. -/
def stringOf (ps : List Piece) : String := String.ofList (joinSurrogates (ps.map Piece.point))

/-! ## Values -/

structure Key where
  name : List Piece
  after : Space
  gap : Space

def Key.text (k : Key) : List Char :=
  '"' :: (stringTail k.name ++ (k.after.val ++ ':' :: k.gap.val))

mutual

inductive Tree where
  | word (w : Word)
  | numeral (n : Numeral)
  | string (ps : List Piece)
  | emptyArray (gap : Space)
  | array (gap : Space) (items : Items)
  | emptyObject (gap : Space)
  | object (gap : Space) (members : Members)

inductive Items where
  | last (item : Tree) (after : Space)
  | next (item : Tree) (after gap : Space) (rest : Items)

inductive Members where
  | last (key : Key) (item : Tree) (after : Space)
  | next (key : Key) (item : Tree) (after gap : Space) (rest : Members)

end

mutual

def Tree.text : Tree → List Char
  | .word w => w.text
  | .numeral n => n.text
  | .string ps => '"' :: stringTail ps
  | .emptyArray gap => '[' :: (gap.val ++ [']'])
  | .array gap items => '[' :: (gap.val ++ (items.text ++ [']']))
  | .emptyObject gap => '\x7b' :: (gap.val ++ ['\x7d'])
  | .object gap members => '\x7b' :: (gap.val ++ (members.text ++ ['\x7d']))

def Items.text : Items → List Char
  | .last item after => item.text ++ after.val
  | .next item after gap rest => item.text ++ (after.val ++ ',' :: (gap.val ++ rest.text))

def Members.text : Members → List Char
  | .last key item after => key.text ++ (item.text ++ after.val)
  | .next key item after gap rest =>
    key.text ++ (item.text ++ (after.val ++ ',' :: (gap.val ++ rest.text)))

end

def lastUnder (name : String) (pairs : List (String × Value)) : Value :=
  (pairs.reverse.lookup name).getD .null

/-- Every name once, where it comes first, with the value that comes last under it. -/
def settle (pairs : List (String × Value)) : Value.Entries :=
  (pairs.map Prod.fst).eraseDups.map fun name => (.str name, lastUnder name pairs)

mutual

def Tree.value : Tree → Value
  | .word w => w.value
  | .numeral n => n.value
  | .string ps => .str (stringOf ps)
  | .emptyArray _ => .list []
  | .array _ items => .list items.values
  | .emptyObject _ => .map []
  | .object _ members => .map (settle members.pairs)

def Items.values : Items → List Value
  | .last item _ => [item.value]
  | .next item _ _ rest => item.value :: rest.values

def Members.pairs : Members → List (String × Value)
  | .last key item _ => [(stringOf key.name, item.value)]
  | .next key item _ _ rest => (stringOf key.name, item.value) :: rest.pairs

end

/-- The text is one value with blanks around it. -/
def Holds (s : List Char) (v : Value) : Prop :=
  ∃ (before : Space) (t : Tree) (after : Space),
    s = before.val ++ (t.text ++ after.val) ∧ t.value = v

/-! ## Integers that are too long -/

inductive Continues : List Char → Prop where
  | digit {c : Char} (h : c.isDigit = true) (rest : List Char) : Continues (c :: rest)
  | fraction (ds : Digits) (rest : List Char) : Continues (Numeral.fractionText (some ds) ++ rest)
  | power (p : Power) (rest : List Char) : Continues (p.text ++ rest)

def LongInteger (s : List Char) : Prop :=
  ∃ (n : Numeral) (rest : List Char), s = n.text ++ rest ∧ n.isInteger = true ∧
    4300 < n.whole.val.length ∧ ¬ Continues rest

mutual

/-- What may stand between the start of a value and that of a value in it. -/
inductive UpTo : List Char → Prop where
  | here : UpTo []
  | array (gap : Space) {s : List Char} (h : UpToItem s) : UpTo ('[' :: (gap.val ++ s))
  | object (gap : Space) {s : List Char} (h : UpToMember s) : UpTo ('\x7b' :: (gap.val ++ s))

inductive UpToItem : List Char → Prop where
  | item {s : List Char} (h : UpTo s) : UpToItem s
  | next (item : Tree) (after gap : Space) {s : List Char} (h : UpToItem s) :
      UpToItem (item.text ++ (after.val ++ ',' :: (gap.val ++ s)))

inductive UpToMember : List Char → Prop where
  | item (key : Key) {s : List Char} (h : UpTo s) : UpToMember (key.text ++ s)
  | next (key : Key) (item : Tree) (after gap : Space) {s : List Char} (h : UpToMember s) :
      UpToMember (key.text ++ (item.text ++ (after.val ++ ',' :: (gap.val ++ s))))

end

/-- Where a value is expected in the text there is an integer of more than 4300 digits. -/
def HasLongInteger (s : List Char) : Prop :=
  ∃ (before : Space) (inside rest : List Char),
    s = before.val ++ (inside ++ rest) ∧ UpTo inside ∧ LongInteger rest

end ClientCompiler.Json
