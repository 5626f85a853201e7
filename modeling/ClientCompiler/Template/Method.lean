import ClientCompiler.Template.Test
import ClientCompiler.Text.Blank
import ClientCompiler.Text.Lower
import ClientCompiler.Text.Upper

/-!
The calls in templates: of what can be done with a text, and of the cycle of a loop. Letters become
small one by one, also at the end of a word.
-/

namespace ClientCompiler.Template

def strippedOf (strips : Char → Bool) (atStart atEnd : Bool) (s : List Char) : List Char :=
  let s := if atStart then s.dropWhile strips else s
  if atEnd then (s.reverse.dropWhile strips).reverse else s

/-- A text with a new text for the first `left` places of an old one. What is left of an old one has
to be skipped. -/
def replacedIn (old new : List Char) : Nat → Nat → List Char → List Char
  | left, 0, [] => if old.isEmpty && 0 < left then new else []
  | left, 0, c :: s =>
    if 0 < left && old.isPrefixOf (c :: s) then
      if old.isEmpty then new ++ c :: replacedIn old new (left - 1) 0 s
      else new ++ replacedIn old new (left - 1) (old.length - 1) s
    else c :: replacedIn old new left 0 s
  | _, _ + 1, [] => []
  | left, skipped + 1, _ :: s => replacedIn old new left skipped s

/-- The parts of a text between separators, of which what is left has to be skipped. -/
def partsBetween (sep : List Char) : Nat → List Char → List (List Char)
  | _, [] => [[]]
  | skipped + 1, _ :: s => partsBetween sep skipped s
  | 0, c :: s =>
    if sep.isPrefixOf (c :: s) then [] :: partsBetween sep (sep.length - 1) s
    else match partsBetween sep 0 s with
      | part :: parts => (c :: part) :: parts
      | [] => [[c]]

namespace Datum

def stripped (atStart atEnd : Bool) (s : List Char) (chars : Datum) : Rendering Datum :=
  match chars, chars.text? with
  | .nothing, _ => .ok (.text (strippedOf Text.isBlank atStart atEnd s))
  | _, some cs => .ok (.text (strippedOf (cs.contains ·) atStart atEnd s))
  | _, none => unfit

/-- A text with a new text for an old one, as often as a number says if it is not negative. -/
def replaced (s old new : List Char) (count : Datum) : Rendering Datum :=
  match count.int? with
  | some i =>
    let left := if i < 0 then s.length + 1 else i.toNat
    .ok (.text (replacedIn old new left 0 s))
  | none => unfit

def standsAt (isAt : List Char → Bool) : Datum → Rendering Datum
  | .tuple xs => do
    let texts ← xs.mapM fun x => x.text?.elim unfit .ok
    return .bool (texts.any isAt)
  | d => d.text?.elim unfit fun s => .ok (.bool (isAt s))

def joinedWith (s : List Char) (d : Datum) : Rendering Datum := do
  let parts ← (← d.items).mapM fun x => x.text?.elim unfit .ok
  return .text (Value.joined s parts)

def partsOf (s : List Char) (separator : Datum) : Rendering Datum :=
  match separator, separator.text? with
  | .nothing, _ => .ok (.list ((Text.words s).map .text))
  | _, some [] => badValue
  | _, some sep => .ok (.list ((partsBetween sep 0 s).map .text))
  | _, none => unfit

def callNames : List String :=
  ["upper", "lower", "strip", "lstrip", "rstrip", "startswith", "endswith", "replace", "split", "join",
    "cycle"]

def callText (s : List Char) (n : String) (args : List Datum) (named : List (String × Datum)) :
    Rendering Datum := do
  let chars := args.headD .nothing
  match n, args, named with
  | "upper", [], [] => return .text (Text.upper s)
  | "lower", [], [] => return .text (Text.lower s)
  | "strip", _, [] => if args.length ≤ 1 then stripped true true s chars else unfit
  | "lstrip", _, [] => if args.length ≤ 1 then stripped true false s chars else unfit
  | "rstrip", _, [] => if args.length ≤ 1 then stripped false true s chars else unfit
  | "startswith", [d], [] => d.standsAt fun t => t.isPrefixOf s
  | "endswith", [d], [] => d.standsAt fun t => t.isSuffixOf s
  | "join", [d], [] => joinedWith s d
  | "split", _, _ =>
    let given ← bindArguments ["sep"] args named
    partsOf s ((given.lookup "sep").getD .nothing)
  | "replace", _, [] =>
    match args with
    | old :: new :: count =>
      match old.text?, new.text?, count with
      | some old, some new, [] => replaced s old new (.int (-1))
      | some old, some new, [count] => replaced s old new count
      | _, _, _ => unfit
    | _ => unfit
  | _, _, _ => unfit

/-- What a call of something that can be done with a datum gives. What a datum cannot do is
undefined. -/
def called (d : Datum) (n : String) (args : List Datum) (named : List (String × Datum)) :
    Rendering Datum :=
  match d, d.text? with
  | _, some s => if n = "cycle" then ofTemplate else callText s n args named
  | .turn index _, none =>
    if n ≠ "cycle" then ofTemplate
    else if args.isEmpty || !named.isEmpty then unfit
    else .ok (itemAt args (index % args.length : Nat))
  | _, none => ofTemplate

end Datum
end ClientCompiler.Template
