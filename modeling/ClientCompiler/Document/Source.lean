import ClientCompiler.Document.Content
import ClientCompiler.Files.Disk
import ClientCompiler.Number.Double

/-!
Where a document comes from: standard input, an address, or a file. What reading the input, asking
an address and asking the system of files lead to is given.
-/

namespace ClientCompiler

inductive StandardInput where
  | text (s : List Char)
  | unreadable (reason : String)
  | raised (e : ForeignFault)

abbrev StandardInput.interrupted : StandardInput := .raised ⟨.interrupted, rfl⟩

/-- An address, how many seconds it may take to answer, and whether another address that an answer
names is asked in turn. -/
structure HttpRequest where
  url : String
  timeout : Double
  followsRedirects : Bool

/-- An answer. Its octets need not be a text in the way that its headers say. -/
structure HttpResponse where
  status : Int
  contentType : String
  text : Except ForeignFault (List Char)

/-- What comes of a request: an answer, a failed request, or something that no request should lead
to. -/
inductive HttpReply where
  | response (r : HttpResponse)
  | failed (reason : String)
  | raised (e : ForeignFault)

inductive DocumentSource where
  | standardInput
  | address (url : String)
  | file (path : String)
  deriving DecidableEq, Repr

namespace DocumentSource

/-- A hyphen is standard input, and `http://` or `https://` starts an address. -/
def ofString (s : String) : DocumentSource :=
  let starts (p : String) : Bool := (Text.dropPrefix? p.toList s.toList).isSome
  if s = "-" then .standardInput
  else if starts "http://" || starts "https://" then .address s
  else .file s

def request (url : String) : HttpRequest := ⟨url, Double.ofInt 30, true⟩

def readInput : StandardInput → Except Fault Value
  | .unreadable reason => Content.retrieval (.standardInputUnreadable reason)
  | .raised e => .error e.val
  | .text s =>
    if (Text.trim s).isEmpty then Content.retrieval .standardInputEmpty else Content.parse .unknown s

def formatOfContentType (contentType : String) : Format :=
  let has (p : String) : Bool := Text.occurs p.toList contentType.toList
  if has "json" then .json else if has "yaml" || has "yml" then .yaml else .unknown

def readReply (url : String) : HttpReply → Except Fault Value
  | .failed reason => Content.retrieval (.unreachable url reason)
  | .raised e => .error e.val
  | .response r =>
    if 200 ≤ r.status && r.status < 300 then
      match r.text with
      | .ok s => Content.parse (formatOfContentType r.contentType) s
      | .error e => .error e.val
    else Content.retrieval (.httpStatus r.status url)

def formatOfPath (p : FilePath) : Format :=
  let suffix := String.ofList (Text.lowerAscii p.suffix.toList)
  if suffix = ".json" then .json
  else if suffix = ".yaml" || suffix = ".yml" then .yaml
  else .unknown

def readFile (d : Disk) (path : String) : Except Fault Value := do
  let p := FilePath.ofString path
  if !(← d.isFile p) then Content.retrieval (.notFound path)
  else
    let s ← match d.readText p with
      | .error (.system e) => Content.retrieval (.unreadable path (e.message p.text))
      | r => r
    if (Text.trim s).isEmpty then Content.retrieval (.emptyFile path)
    else Content.parse (formatOfPath p) s

def load (d : Disk) (input : StandardInput) (ask : HttpRequest → HttpReply) :
    DocumentSource → Except Fault Value
  | .standardInput => readInput input
  | .address url => readReply url (ask (request url))
  | .file path => readFile d path

end DocumentSource
end ClientCompiler
