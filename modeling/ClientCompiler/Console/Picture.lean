import ClientCompiler.Console.Picture.Flags
import ClientCompiler.Console.Picture.People
import ClientCompiler.Console.Picture.Things
import ClientCompiler.Text.Blank
import ClientCompiler.Text.Lower

/-!
Pictures in texts, by the names that stand for them between colons.
-/

namespace ClientCompiler.Console.Picture

def meaningIn? (name : List Char) : List (List Char) → Option (List Char)
  | n :: meaning :: rest => if n = name then some meaning else meaningIn? name rest
  | _ => none

def lookup? (name : List Char) (lines : List String) : Option (List Char) :=
  lines.findSome? fun line => meaningIn? name (Text.splitOn ' ' line.toList)

def tones : List (String × Char) := [
  ("_medium-light_skin_tone", Char.ofNat 0x1F3FC), ("_light_skin_tone", Char.ofNat 0x1F3FB),
  ("_medium_skin_tone", Char.ofNat 0x1F3FD), ("_medium-dark_skin_tone", Char.ofNat 0x1F3FE),
  ("_dark_skin_tone", Char.ofNat 0x1F3FF)]

def coloured : Char := Char.ofNat 0xFE0F

def uncoloured : Char := Char.ofNat 0xFE0E

/-- A tone follows the first sign of a picture, in the place of the sign for colours. -/
def withTone (tone : Char) : List Char → List Char
  | c :: rest => c :: tone :: (Text.dropPrefix? [coloured] rest).getD rest
  | [] => []

def dropSuffix? (suffix : String) (name : List Char) : Option (List Char) :=
  (Text.dropPrefix? suffix.toList.reverse name.reverse).map List.reverse

def person? (name : List Char) : Option (List Char) :=
  (lookup? name people).or <| tones.findSome? fun (suffix, tone) => do
    withTone tone (← lookup? (← dropSuffix? suffix name) people)

def flag? (name : List Char) : Option (List Char) :=
  (lookup? ((Text.dropPrefix? "flag_for_".toList name).getD name) flags).map fun letters =>
    letters.map fun c => Char.ofNat (0x1F1E6 + (c.toNat - 'A'.toNat))

def named? (name : List Char) : Option (List Char) :=
  let name := Text.lower name
  (person? name).or ((flag? name).or ((lookup? name firstThings).or (lookup? name moreThings)))

/-- The picture with a name, where the name may end in the kind of picture that is wanted. -/
def ofCode? (code : List Char) : Option (List Char) :=
  match dropSuffix? "-emoji" code, dropSuffix? "-text" code with
  | some name, _ => (named? name).map (· ++ [coloured])
  | none, some name => (named? name).map (· ++ [uncoloured])
  | none, none => named? code

def untilColon : List Char → Option (List Char × List Char)
  | [] => none
  | c :: cs =>
    if c = ':' then some ([], cs)
    else if Text.isBlank c then none
    else (untilColon cs).map fun (code, rest) => (c :: code, rest)

def shownFrom : Nat → List Char → List Char
  | 0, s => s
  | _, [] => []
  | fuel + 1, c :: cs =>
    if c = ':' then
      match untilColon cs with
      | some (code, rest) => (ofCode? code).getD (':' :: code ++ [':']) ++ shownFrom fuel rest
      | none => c :: shownFrom fuel cs
    else c :: shownFrom fuel cs

def shown (s : List Char) : List Char := shownFrom s.length s

end ClientCompiler.Console.Picture
