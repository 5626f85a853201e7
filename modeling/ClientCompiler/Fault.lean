import ClientCompiler.Value.Text

/-!
Why a run fails. A fault keeps its cause; the wording of every cause is in this module.
-/

namespace ClientCompiler

/-- The broad class of a failure, which decides the exit code of a run. -/
inductive FaultClass where
  | general
  | usage
  | retrieval
  | unresolved
  | format
  | config
  deriving DecidableEq, Repr

def FaultClass.exitCode : FaultClass → Nat
  | .usage => 2
  | .retrieval => 7
  | _ => 1

def interruptedExitCode : Nat := 130

inductive Place where
  | name (s : String)
  | index (i : Int)
  deriving DecidableEq, Repr

inductive Complaint where
  | missing
  | notString
  | notUnicode
  | notList
  | notMap
  | notRecord
  | notMember
  | notBoolean
  | unreadableBoolean
  deriving DecidableEq, Repr

structure Issue where
  path : List Place
  complaint : Complaint
  deriving DecidableEq, Repr

inductive SystemFault where
  | notFound
  | notDirectory
  | exists
  | isDirectory
  | nameTooLong
  | notEmpty
  | busy
  | denied
  | failed
  | looped
  | badHandle
  | other (number : Nat) (text : String)
  deriving DecidableEq, Repr

def SystemFault.number : SystemFault → Nat
  | .notFound => 2
  | .denied => 13
  | .busy => 16
  | .exists => 17
  | .notDirectory => 20
  | .isDirectory => 21
  | .nameTooLong => 36
  | .notEmpty => 39
  | .failed => 5
  | .looped => 40
  | .badHandle => 9
  | .other number _ => number

def SystemFault.text : SystemFault → String
  | .notFound => "No such file or directory"
  | .denied => "Permission denied"
  | .busy => "Device or resource busy"
  | .exists => "File exists"
  | .notDirectory => "Not a directory"
  | .isDirectory => "Is a directory"
  | .nameTooLong => "File name too long"
  | .notEmpty => "Directory not empty"
  | .failed => "Input/output error"
  | .looped => "Too many levels of symbolic links"
  | .badHandle => "Bad file descriptor"
  | .other _ text => text

def SystemFault.message (f : SystemFault) (path : String) : String :=
  s!"[Errno {f.number}] {f.text}: {String.ofList (Value.quoted path.toList)}"

/-- A failed call that says that there is nothing at a path: the path leads nowhere, breaks off at
something that is no directory, or goes round in a circle. -/
def SystemFault.saysAbsent (f : SystemFault) : Bool :=
  [SystemFault.notFound, .badHandle, .notDirectory, .looped].any (·.number = f.number)

inductive RetrievalCause where
  | standardInputUnreadable (reason : String)
  | standardInputEmpty
  | httpStatus (code : Int) (url : String)
  | unreachable (url reason : String)
  | notFound (path : String)
  | unreadable (path reason : String)
  | emptyFile (path : String)
  | malformedJson (reason : String)
  | unparsable (jsonReason : Option String)
  | notObject (kind : String)
  | otherDialect (version : String)
  | versionMissing
  | versionUnsupported (version : String)
  deriving DecidableEq, Repr

def RetrievalCause.message : RetrievalCause → String
  | .standardInputUnreadable reason => s!"Failed to read from stdin: {reason}"
  | .standardInputEmpty => "No input received from stdin"
  | .httpStatus code url => s!"HTTP {code} fetching document from {url}"
  | .unreachable url reason => s!"Failed to fetch document from {url}: {reason}"
  | .notFound path => s!"Document not found: {path}"
  | .unreadable path reason => s!"Failed to read document {path}: {reason}"
  | .emptyFile path => s!"Document is empty: {path}"
  | .malformedJson reason => s!"Invalid JSON: {reason}"
  | .unparsable none => "Failed to parse document as JSON or YAML\n  YAML error: ..."
  | .unparsable (some reason) =>
    s!"Failed to parse document as JSON or YAML\n  JSON error: {reason}\n  YAML error: ..."
  | .notObject kind => s!"Document must be a JSON/YAML object (got {kind})"
  | .otherDialect version =>
    s!"OpenAPI {version} is not supported. " ++
      "Only Swagger 2.0 documents (tags/paths/definitions) are supported."
  | .versionMissing => "Missing 'swagger' field. Is this a Swagger 2.0 document?"
  | .versionUnsupported version =>
    s!"Unsupported Swagger version: {version}. Only Swagger 2.0 is supported."

inductive ConfigCause where
  | notFound (path : String)
  | noTable (path : String)
  | malformed (path reason : String)
  | malformedTable (path : String)
  | notObject (path : String)
  | badFields (path : String) (issues : List Issue)
  | templateUnreadable (path reason : String)
  | templateMalformed (slot : String)
  | templateFailed (slot : String)
  deriving DecidableEq, Repr

/-- Where a reason comes from another program, three dots stand for it. -/
def ConfigCause.message : ConfigCause → String
  | .notFound path => s!"Config file not found: {path}"
  | .noTable path => s!"No [tool.specgen] table in {path}"
  | .malformed path reason => s!"Invalid config at {path}: {reason}"
  | .malformedTable path => s!"Invalid TOML at {path}: ..."
  | .notObject path => s!"Invalid config at {path}: expected an object"
  | .badFields path _ => s!"Invalid config at {path}: ..."
  | .templateUnreadable path reason => s!"Cannot read template {path}: {reason}"
  | .templateMalformed slot => s!"Invalid {slot} template: ..."
  | .templateFailed slot => s!"Failed to render {slot} template: ..."

/-- What is wrong with the name of a host that is not plain ASCII: a rule for whole names or labels, a
character that names may not hold or not there, or the direction of its letters. -/
inductive HostFault where
  | malformed
  | character
  | context
  | direction
  deriving DecidableEq, Repr

/-- The program's own failures carry an exit code. The others end a run unforeseen: a value of an
unexpected kind was asked for a member (`noMember`), used where its kind does not fit (`unfit`),
or has no meaning there (`badValue`); a word is none of those that a type knows (`unknownWord`), a
text is empty where its first character decides (`emptyText`), a closing tag closes nothing
(`unmatchedTag`), a number has no spelling in an expression (`unspelled`), a template is well formed
and has no meaning (`meaningless`), a value holds itself (`endless`), an address names no
host that can be asked (`badAddress`, `badHost`), or a part of it has to be ASCII and is not
(`unencodable`). What other programs raise besides goes by its name (`foreign`). -/
inductive Fault where
  | urlMissing
  | retrieval (cause : RetrievalCause)
  | config (cause : ConfigCause)
  | format (message : String)
  | invalid (issues : List Issue)
  | queueClosed
  | bindingFailed
  | noMember
  | unfit
  | badValue
  | unknownWord
  | emptyText
  | undecodable
  | divisionByZero
  | overflow
  | system (f : SystemFault)
  | unmatchedTag
  | unspelled
  | meaningless
  | endless
  | badAddress
  | badHost (f : HostFault)
  | unencodable
  | homeUnknown
  | interrupted
  | foreign (name : String)
  deriving DecidableEq, Repr

namespace Fault

def class? : Fault → Option FaultClass
  | .urlMissing => some .usage
  | .retrieval _ => some .retrieval
  | .config _ => some .config
  | .format _ => some .format
  | _ => none

def message : Fault → String
  | .urlMissing => "missing required argument 'url'"
  | .retrieval cause => cause.message
  | .config cause => cause.message
  | .format message => message
  | .queueClosed => "cannot defer a binding after the queue was drained"
  | .bindingFailed => "binding failed"
  | .homeUnknown => "Could not determine home directory."
  | _ => "..."

def issues? : Fault → Option (List Issue)
  | .invalid issues => some issues
  | .config (.badFields _ issues) => some issues
  | _ => none

end Fault

abbrev ForeignFault : Type := { e : Fault // e.class? = none }

end ClientCompiler
