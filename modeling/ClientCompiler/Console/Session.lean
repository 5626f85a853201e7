import ClientCompiler.Console.Printer

/-!
Printers of a program over time. One of them may be shared by the whole program; if none is, the
first use makes one. Diagnostics go to the printer whose handler was installed last; without a
handler, warnings and worse are shown bare.
-/

namespace ClientCompiler

structure ConsoleSession where
  surroundings : Surroundings
  printers : List Printer
  names : List (String × Nat)
  current : Option Nat
  shared : Option Nat
  handler : Option Printer
  deriving Repr

inductive ConsoleStep where
  | make (options : Option PrinterOptions) (name : String)
  | use (name : String)
  | notice (kind : Notice) (text : String)
  | data (text : String)
  | json (v : Value)
  | table (t : Table)
  | installHandler
  | log (level : Level) (text : String) (logger : String)
  | share
  | unshare
  | askShared
  | sharedNotice (kind : Notice) (text : String)

inductive ConsoleResult where
  | nothing
  | made (format : OutputFormat) (verbose : Bool)
  | handlers (count : Nat) (level : Level)
  | sharedIs (current : Bool) (format : OutputFormat)
  deriving DecidableEq, Repr

structure ConsoleAnswer where
  result : Except Fault ConsoleResult
  out : List Char
  err : List Char

namespace ConsoleSession

def start (s : Surroundings) : ConsoleSession := ⟨s, [], [], none, none, none⟩

def answer (r : ConsoleResult) : ConsoleAnswer := ⟨.ok r, [], []⟩

def refuse (e : Fault) : ConsoleAnswer := ⟨.error e, [], []⟩

def toOut (x : Except Fault (List Char)) : ConsoleAnswer :=
  match x with
  | .ok s => ⟨.ok .nothing, s, []⟩
  | .error e => refuse e

def toErr (x : Except Fault (List Char)) : ConsoleAnswer :=
  match x with
  | .ok s => ⟨.ok .nothing, [], s⟩
  | .error e => refuse e

def add (s : ConsoleSession) (p : Printer) : ConsoleSession × Nat :=
  ({ s with printers := s.printers ++ [p] }, s.printers.length)

/-- The shared printer, made with nothing asked for if there is none yet. -/
def withShared (s : ConsoleSession) : Except Fault (ConsoleSession × Printer) :=
  match s.shared.bind fun i => s.printers[i]? with
  | some p => .ok (s, p)
  | none => do
    let p ← Printer.ofOptions s.surroundings ⟨.auto, false, false, false⟩
    return ({ (s.add p).1 with shared := some (s.add p).2 }, p)

def currentPrinter? (s : ConsoleSession) : Option Printer := s.current.bind fun i => s.printers[i]?

/-- Answers with the current printer; without one there is nothing to ask. -/
def withCurrent (s : ConsoleSession) (f : Printer → ConsoleAnswer) : ConsoleAnswer :=
  match s.currentPrinter? with
  | some p => f p
  | none => refuse .noMember

def loggerName : String := "specgen"

def isOwnLogger (name : String) : Bool :=
  name = loggerName || (Text.dropPrefix? (loggerName ++ ".").toList name.toList).isSome

/-- What a record prints: through the handler from its threshold on, otherwise the bare message of a
warning or worse. -/
def logText (s : ConsoleSession) (level : Level) (text logger : String) : List Char :=
  match if isOwnLogger logger then s.handler else none with
  | some p => if p.threshold.rank ≤ level.rank then p.diagnostic level text else []
  | none => if Level.warning.rank ≤ level.rank then Printer.line text.toList else []

def step (s : ConsoleSession) : ConsoleStep → ConsoleSession × ConsoleAnswer
  | .make none _ => (s, refuse .badValue)
  | .make (some o) name =>
    match Printer.ofOptions s.surroundings o with
    | .error e => (s, refuse e)
    | .ok p =>
      let (s, i) := s.add p
      ({ s with names := (name, i) :: s.names, current := some i }, answer (.made p.format p.verbose))
  | .use name =>
    match s.names.lookup name with
    | some i => ({ s with current := some i }, answer .nothing)
    | none => (s, refuse .unknownWord)
  | .notice kind text => (s, s.withCurrent fun p => toErr (p.notice kind text))
  | .data text => (s, s.withCurrent fun _ => toOut (.ok (Printer.line text.toList)))
  | .json v => (s, s.withCurrent fun _ => toOut (Printer.json v))
  | .table t => (s, s.withCurrent fun p => toOut (p.table t))
  | .installHandler =>
    match s.currentPrinter? with
    | some p => ({ s with handler := some p }, answer (.handlers 1 p.threshold))
    | none => (s, refuse .noMember)
  | .log level text logger => (s, ⟨.ok .nothing, [], s.logText level text logger⟩)
  | .share => ({ s with shared := s.current }, answer .nothing)
  | .unshare => ({ s with shared := none }, answer .nothing)
  | .askShared =>
    match s.withShared with
    | .ok (s, p) => (s, answer (.sharedIs (s.current.isSome && s.shared == s.current) p.format))
    | .error e => (s, refuse e)
  | .sharedNotice kind text =>
    match s.withShared with
    | .ok (s, p) => (s, toErr (p.notice kind text))
    | .error e => (s, refuse e)

end ConsoleSession
end ClientCompiler
