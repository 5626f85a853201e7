/-!
Keys of properties: a name that is an identifier stands for itself, any other is quoted.
-/

namespace ClientCompiler.Render

def startsIdentifier (c : Char) : Bool :=
  ('A' ≤ c && c ≤ 'Z') || ('a' ≤ c && c ≤ 'z') || c = '_' || c = '$'

def continuesIdentifier (c : Char) : Bool := startsIdentifier c || ('0' ≤ c && c ≤ '9')

def isIdentifier : List Char → Bool
  | [] => false
  | c :: cs => startsIdentifier c && cs.all continuesIdentifier

/-- Whether a text is an identifier, where one line end after it is overlooked. -/
def isKey (s : List Char) : Bool :=
  isIdentifier (if s.getLast? = some '\n' then s.dropLast else s)

def escapeQuotes (s : List Char) : List Char :=
  s.flatMap fun c => if c = '\\' || c = '"' then ['\\', c] else [c]

def propertyKey (s : List Char) : List Char :=
  if isKey s then s else '"' :: escapeQuotes s ++ ['"']

end ClientCompiler.Render
