import ClientCompiler.Document.Shape
import ClientCompiler.Json.Reader
import ClientCompiler.Yaml.Unrolling

/-!
Reading the text of a document. JSON is tried first, then YAML; a hint about the format leaves out
one of them.
-/

namespace ClientCompiler

inductive Format where
  | json
  | yaml
  | unknown
  deriving DecidableEq, Repr

namespace Content

def retrieval {α : Type} (cause : RetrievalCause) : Except Fault α := .error (.retrieval cause)

def kindName : Value → String
  | .null => "empty document"
  | .bool _ => "bool"
  | .int _ => "int"
  | .float _ => "float"
  | .str _ => "str"
  | .bytes _ => "bytes"
  | .date _ => "date"
  | .moment _ => "datetime"
  | .list _ => "list"
  | .tuple _ => "tuple"
  | .set _ => "set"
  | .map _ => "dict"
  | .again isMap => if isMap then "dict" else "list"

def requireObject (v : Value) : Except Fault Value :=
  if v.isMap then .ok v else retrieval (.notObject (kindName v))

/-- A document in YAML, where `jsonReason` tells why it is not JSON, if that was tried. -/
def parseYaml (jsonReason : Option String) (text : List Char) : Except Fault Value :=
  match Yaml.parse text with
  | .ok v => requireObject v
  | .error .malformed => retrieval (.unparsable jsonReason)
  | .error .badValue => .error .badValue
  | .error .unknownWord => .error .unknownWord
  | .error .emptyText => .error .emptyText
  | .error .noMatch => .error .noMember
  | .error .overflow => .error .overflow
  | .error .unfit => .error .unfit
  | .error .endless => .error .endless

def parse (format : Format) (text : List Char) : Except Fault Value :=
  if format = .yaml then parseYaml none text
  else match Json.parse text with
    | .ok v => requireObject v
    | .error .integerTooLong => .error .badValue
    | .error (.malformed cause left) =>
      let reason := Json.malformedMessage text cause left
      if format = .json then retrieval (.malformedJson reason) else parseYaml (some reason) text

end Content

/-! ## The dialect of a document -/

def versionText (v : Value) : Except Fault String :=
  if v.hasLongInteger then .error .badValue else .ok v.textString

/-- The version that a document declares. Only versions that start with `2.` are understood. -/
def dialectVersion (document : Value) : Except Fault String :=
  match document with
  | .map fields =>
    match Value.field "openapi" fields with
    | some v => do Content.retrieval (.otherDialect (← versionText v))
    | none =>
      match Value.fieldD "swagger" fields with
      | .null => Content.retrieval .versionMissing
      | v => do
        let version ← versionText v
        if (Text.dropPrefix? ['2', '.'] version.toList).isSome then return version
        else Content.retrieval (.versionUnsupported version)
  | other => do
    if ← Shape.contains other (.str "openapi") then throw .unfit else throw .noMember

end ClientCompiler
