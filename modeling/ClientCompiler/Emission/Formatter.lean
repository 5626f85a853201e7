import ClientCompiler.Json.Reader
import ClientCompiler.Json.Writer
import ClientCompiler.Text.Blank
import ClientCompiler.Traced

/-!
Formatters of generated text. A formatter that cannot read a text rejects it with a message.
-/

namespace ClientCompiler

/-- A text in, and a text, a rejection (`Fault.format`) or another fault out. -/
abbrev Formatter := List Char → Traced (List Char)

namespace Formatter

def ofUnwritable : Json.Unwritable → Fault
  | .key => .unfit
  | .integerTooLong => .badValue
  | .endless => .badValue

def jsonText (v : Value) : Except Fault (List Char) :=
  match Json.write v with
  | .ok s => .ok s
  | .error e => .error (ofUnwritable e)

def formatJson (s : List Char) : Except Fault (List Char) :=
  match Json.parse s with
  | .ok v => (jsonText v).map (· ++ ['\n'])
  | .error .integerTooLong => .error .badValue
  | .error (.malformed cause left) =>
    .error (.format s!"Invalid JSON: {Json.malformedMessage s cause left}")

def json : Formatter := fun s => Traced.lift (formatJson s)

end Formatter

structure PrettierReply where
  exitCode : Int
  output : List Char
  errors : List Char
  deriving DecidableEq, Repr

inductive Prettier where
  | absent
  | unstartable (reason : String)
  | present (reply : List Char → PrettierReply)

namespace Prettier

def language : String := "typescript"

def arguments (language : String) : List String :=
  ["--parser", language, "--tab-width", "4", "--no-use-tabs"]

/-- The text of a reply; a program that fails has the first line of its errors as the message. -/
def readReply (r : PrettierReply) : Except Fault (List Char) :=
  if r.exitCode = 0 then .ok r.output
  else
    let errors := Text.trim r.errors
    .error (.format (if errors.isEmpty then s!"prettier exited with {r.exitCode}"
      else String.ofList (Text.firstLine errors)))

/-- Formats code. Without the program the text stays as it is. -/
def formatter : Prettier → Formatter
  | .absent => fun s => ⟨.ok s, [.formatterMissing]⟩
  | .unstartable reason => fun _ => Traced.fail (.format s!"Failed to run prettier: {reason}")
  | .present reply => fun s => Traced.lift (readReply (reply s))

end Prettier
end ClientCompiler
