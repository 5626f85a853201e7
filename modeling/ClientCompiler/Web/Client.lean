import ClientCompiler.Document.Source
import ClientCompiler.Text.Charset
import ClientCompiler.Web.Address

/-!
A client for addresses. It checks an address before it connects, and reads the octets of an answer
as the headers say. What comes of a connection is given.
-/

namespace ClientCompiler.Web

structure Message where
  status : Int
  headers : List (String × String)
  body : List UInt8
  deriving DecidableEq, Repr

namespace Message

def header (m : Message) (name : String) : String :=
  let isName (h : String) : Bool := Text.lowerAscii h.toList = Text.lowerAscii name.toList
  ", ".intercalate ((m.headers.filter fun h => isName h.1).map Prod.snd)

def response (m : Message) : HttpResponse :=
  let contentType := m.header "content-type"
  ⟨m.status, contentType, .ok ((Text.Charset.ofContentType contentType.toList).decode m.body)⟩

end Message

inductive Exchange where
  | received (m : Message)
  | failed (reason : String)
  | raised (e : ForeignFault)

/-- Asks an address over a connection. An address that names no host is not connected to. -/
def ask (connect : HttpRequest → Exchange) (q : HttpRequest) : HttpReply :=
  match checkAddress q.url.toList with
  | .error e => .raised e
  | .ok () =>
    match connect q with
    | .received m => .response m.response
    | .failed reason => .failed reason
    | .raised e => .raised e

end ClientCompiler.Web
