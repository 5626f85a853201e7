import ClientCompiler.Command.Options
import ClientCompiler.Console.Printer
import ClientCompiler.Settings.Resolution

/-!
What a command line asks for. The options of the program come before the name of a command, and
those of the command after it.
-/

namespace ClientCompiler

inductive Command where
  | generate (choice : Settings.Choice)
  | inspectModels (choice : Settings.Choice)
  | inspectModules (choice : Settings.Choice)
  deriving DecidableEq, Repr

/-- A run of a command, the text of the version, the help text with an exit code, or the advice for
a command line that cannot be read. -/
inductive Invocation where
  | run (options : PrinterOptions) (command : Command)
  | version
  | help (exitCode : Nat)
  | misuse
  deriving DecidableEq, Repr

namespace Invocation

inductive Key where
  | version
  | json
  | noColor
  | quiet
  | verbose
  | dir
  | config
  | help
  deriving DecidableEq, Repr

def helpOption : OptionSpec Key := ⟨.help, "--help", none, false⟩

def configOption : OptionSpec Key := ⟨.config, "--config", some 'c', true⟩

def programOptions : List (OptionSpec Key) :=
  [⟨.version, "--version", some 'V', false⟩, ⟨.json, "--json", none, false⟩,
    ⟨.noColor, "--no-color", none, false⟩, ⟨.quiet, "--quiet", some 'q', false⟩,
    ⟨.verbose, "--verbose", some 'v', false⟩, helpOption]

def generateOptions : List (OptionSpec Key) := [⟨.dir, "--dir", some 'd', true⟩, configOption, helpOption]

def inspectOptions : List (OptionSpec Key) := [configOption, helpOption]

def valueOf (r : ReadWords Key) (key : Key) : Option String :=
  (r.options.reverse.find? fun o => o.1 = key).map Prod.snd

def has (r : ReadWords Key) (key : Key) : Bool := r.options.any fun o => o.1 = key

/-- The first option that ends the reading: help and version come before everything else. -/
def ending? (r : ReadWords Key) : Option Invocation :=
  (r.options.find? fun o => o.1 = .help || o.1 = .version).map fun o =>
    if o.1 = .version then .version else .help 0

def ofCommand (specs : List (OptionSpec Key)) (options : PrinterOptions)
    (command : Settings.Choice → Command) (args : List String) : Invocation :=
  match OptionSpec.read specs true none args with
  | none => .misuse
  | some r =>
    match ending? r, r.words with
    | some e, _ => e
    | none, _ :: _ :: _ => .misuse
    | none, words => .run options (command ⟨words.head?, valueOf r .dir, valueOf r .config⟩)

/-- A word that names no command is misuse, unless options that were meant as words end the reading. -/
def ofUnknown (specs : List (OptionSpec Key)) (name : String) (args : List String) : Invocation :=
  if OptionSpec.isOption name then
    match OptionSpec.read specs false none (name :: args) with
    | some r => (ending? r).getD .misuse
    | none => .misuse
  else .misuse

def ofGroup (specs : List (OptionSpec Key)) (args : List String)
    (go : ReadWords Key → String → List String → Option Invocation) : Invocation :=
  if args.isEmpty then .help 2
  else match OptionSpec.read specs false none args with
    | none => .misuse
    | some r =>
      match ending? r, r.words with
      | some e, _ => e
      | none, [] => .misuse
      | none, name :: rest => (go r name rest).getD (ofUnknown specs name rest)

def ofInspect (options : PrinterOptions) (args : List String) : Invocation :=
  ofGroup [helpOption] args fun _ name rest =>
    if name = "models" then some (ofCommand inspectOptions options .inspectModels rest)
    else if name = "modules" then some (ofCommand inspectOptions options .inspectModules rest)
    else none

def ofArguments (args : List String) : Invocation :=
  ofGroup programOptions args fun r name rest =>
    let options : PrinterOptions :=
      ⟨if has r .json then .json else .auto, has r .noColor, has r .quiet, has r .verbose⟩
    if name = "generate" then some (ofCommand generateOptions options .generate rest)
    else if name = "inspect" then some (ofInspect options rest)
    else none

end Invocation
end ClientCompiler
