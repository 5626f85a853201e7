import ClientCompiler.Number.Reading
import ClientCompiler.Yaml.Tag

/-!
What a plain scalar stands for, judged by its text. A line end after the text is overlooked.
-/

namespace ClientCompiler.Yaml

def isOctal (c : Char) : Bool := '0' ≤ c && c ≤ '7'

def nonemptyOf (p : Char → Bool) (cs : List Char) : Bool := !cs.isEmpty && cs.all p

def digitOrBar (c : Char) : Bool := c.isDigit || c = '_'

def startsWithDigit (cs : List Char) : Bool := cs.head?.any Char.isDigit && cs.all digitOrBar

def isSexagesimal : List Char → Bool
  | [a] => a.isDigit
  | [a, b] => '0' ≤ a && a ≤ '5' && b.isDigit
  | _ => false

def sixtieths (first : List Char → Bool) (cs : List Char) : Bool :=
  match Text.splitOn ':' cs with
  | a :: b :: rest => first a && (b :: rest).all isSexagesimal
  | _ => false

def looksLikeInt (cs : List Char) : Bool :=
  match (signed cs).2 with
  | '0' :: 'b' :: ds => nonemptyOf (fun c => c = '0' || c = '1' || c = '_') ds
  | '0' :: 'x' :: ds => nonemptyOf (fun c => isHex c || c = '_') ds
  | '0' :: ds => ds.all fun c => isOctal c || c = '_'
  | ds => ds.head?.any Char.isDigit &&
    (ds.all digitOrBar || sixtieths (·.all digitOrBar) ds)

def looksLikeExponent : List Char → Bool
  | [] => true
  | e :: s :: ds => (e = 'e' || e = 'E') && (s = '-' || s = '+') && nonemptyOf Char.isDigit ds
  | _ => false

def looksLikeFraction (cs : List Char) : Bool := looksLikeExponent (cs.dropWhile digitOrBar)

def looksLikeFloat (cs : List Char) : Bool :=
  let (_, body) := signed cs
  let isSigned := body.length < cs.length
  match body with
  | '.' :: r =>
    ["inf", "Inf", "INF"].contains (String.ofList r) ||
      (!isSigned && (["nan", "NaN", "NAN"].contains (String.ofList r) ||
        (r.head?.any Char.isDigit && looksLikeFraction r)))
  | _ =>
    match body.dropWhile (· ≠ '.') with
    | '.' :: r =>
      let whole := body.takeWhile (· ≠ '.')
      (startsWithDigit whole && looksLikeFraction r) ||
        (sixtieths startsWithDigit whole && r.all digitOrBar)
    | _ => false

def boolWords : List String :=
  ["yes", "Yes", "YES", "no", "No", "NO", "true", "True", "TRUE", "false", "False", "FALSE", "on",
    "On", "ON", "off", "Off", "OFF"]

def nullWords : List String := ["~", "null", "Null", "NULL", ""]

/-! ## Dates and times -/

structure Stamp where
  year : List Char
  month : List Char
  day : List Char
  time : Option (List Char × List Char × List Char)
  fraction : List Char
  zone : Option (Bool × List Char × List Char)
  deriving Repr

def digits? (least most : Nat) (cs : List Char) : Option (List Char × List Char) :=
  let run := (cs.take most).takeWhile Char.isDigit
  if run.length < least then none else some (run, cs.drop run.length)

def expect? (c : Char) : List Char → Option (List Char)
  | d :: r => if c = d then some r else none
  | [] => none

def zone? (cs : List Char) : Option (Option (Bool × List Char × List Char)) :=
  if cs.isEmpty then some none
  else match cs.dropWhile fun c => c = ' ' || c = '\t' with
    | ['Z'] => some (some (false, ['0'], []))
    | s :: r => do
      if s ≠ '+' && s ≠ '-' then none
      let (hour, r) ← digits? 1 2 r
      if r.isEmpty then return some (s = '-', hour, [])
      let (minute, r) ← digits? 2 2 (← expect? ':' r)
      if r.isEmpty then return some (s = '-', hour, minute) else none
    | [] => none

def stamp? (cs : List Char) : Option Stamp := do
  let (year, r) ← digits? 4 4 cs
  let (month, r) ← digits? 1 2 (← expect? '-' r)
  let (day, r) ← digits? 1 2 (← expect? '-' r)
  if r.isEmpty then return ⟨year, month, day, none, [], none⟩
  let r ← match r with
    | 'T' :: r => some r
    | 't' :: r => some r
    | c :: r => if c = ' ' || c = '\t' then some (r.dropWhile fun c => c = ' ' || c = '\t') else none
    | [] => none
  let (hour, r) ← digits? 1 2 r
  let (minute, r) ← digits? 2 2 (← expect? ':' r)
  let (second, r) ← digits? 2 2 (← expect? ':' r)
  let (fraction, r) := match r with
    | '.' :: r => (r.takeWhile Char.isDigit, r.dropWhile Char.isDigit)
    | r => ([], r)
  return ⟨year, month, day, some (hour, minute, second), fraction, ← zone? r⟩

/-- Without a time of day, month and day have two digits. -/
def looksLikeStamp (cs : List Char) : Bool :=
  (stamp? cs).any fun t => t.time.isSome || (t.month.length = 2 && t.day.length = 2)

/-! ## Kinds -/

def dropFinalNewline (cs : List Char) : List Char :=
  if cs.getLast? = some '\n' then cs.dropLast else cs

def plainTag (text : List Char) : Tag :=
  let cs := dropFinalNewline text
  let word := String.ofList cs
  if boolWords.contains word then .bool
  else if looksLikeFloat cs then .float
  else if looksLikeInt cs then .int
  else if word = "<<" then .merge
  else if nullWords.contains word && (text.isEmpty || !cs.isEmpty) then .null
  else if looksLikeStamp cs then .timestamp
  else if word = "=" then .value
  else if ["!", "&", "*"].contains word then .other (commonTags ++ "yaml")
  else .str

end ClientCompiler.Yaml
