/-!
Words of a command line: options with one hyphen and a letter, or with two hyphens and a name, and
the words between them. Letters may share a hyphen; a value follows its option in the same word or
in the next one.
-/

namespace ClientCompiler

structure OptionSpec (α : Type) where
  key : α
  name : String
  letter : Option Char
  takesValue : Bool
  deriving Repr

structure ReadWords (α : Type) where
  options : List (α × String)
  words : List String
  deriving Repr

namespace OptionSpec

variable {α : Type}

/-- A lone hyphen is no option. -/
def isOption (word : String) : Bool := word.toList.head? = some '-' && word.toList.length > 1

def readLetters (specs : List (OptionSpec α)) : List Char → Option (List (α × String) × Option α)
  | [] => some ([], none)
  | c :: cs => do
    let spec ← specs.find? fun s => s.letter == some c
    if spec.takesValue then
      return if cs.isEmpty then ([], some spec.key) else ([(spec.key, String.ofList cs)], none)
    else
      let (options, waiting) ← readLetters specs cs
      return ((spec.key, "") :: options, waiting)

/-- The options in one word; none if one is unknown, or if a value is given where none is taken. -/
def readOption (specs : List (OptionSpec α)) (word : String) :
    Option (List (α × String) × Option α) :=
  let chars := word.toList
  let name := chars.takeWhile (· ≠ '=')
  let value := (chars.drop name.length).tail
  match specs.find? fun s => s.name == String.ofList name with
  | some spec =>
    if spec.takesValue then
      some (if name.length < chars.length then ([(spec.key, String.ofList value)], none)
        else ([], some spec.key))
    else if name.length < chars.length then none
    else some ([(spec.key, "")], none)
  | none =>
    match chars with
    | '-' :: '-' :: _ => none
    | _ => readLetters specs chars.tail

/-- Reads a command line. After two hyphens alone every word stands for itself; with `mixed` options
may follow other words. An option that `waiting` names takes the first word as its value. -/
def read (specs : List (OptionSpec α)) (mixed : Bool) (waiting : Option α) :
    List String → Option (ReadWords α)
  | [] => if waiting.isSome then none else some ⟨[], []⟩
  | word :: rest =>
    match waiting with
    | some key => (read specs mixed none rest).map fun r => ⟨(key, word) :: r.options, r.words⟩
    | none =>
      if word = "--" then some ⟨[], rest⟩
      else if isOption word then do
        let (options, waiting) ← readOption specs word
        let r ← read specs mixed waiting rest
        return ⟨options ++ r.options, r.words⟩
      else if mixed then (read specs mixed none rest).map fun r => ⟨r.options, word :: r.words⟩
      else some ⟨[], word :: rest⟩

end OptionSpec
end ClientCompiler
