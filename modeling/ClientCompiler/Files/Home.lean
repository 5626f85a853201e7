import ClientCompiler.Fault
import ClientCompiler.Files.Path

/-!
Paths into the homes of users. A tilde in front of a relative path is the own home, and a tilde with
a name is that of another user.
-/

namespace ClientCompiler

/-- What the surroundings know of homes: a variable that says where the own one is, and the accounts
of the one who runs the program and of everyone else. -/
structure Homes where
  given? : Option String
  own? : Option String
  ofUser? : String → Option String

namespace Homes

def none : Homes := ⟨.none, .none, fun _ => .none⟩

/-- The text for the home of a user. The user without a name is the one who runs the program. -/
def text? (h : Homes) (user : String) : Option String :=
  if user = "" then h.given?.or h.own? else h.ofUser? user

/-- The directory that a text for a home names. Slashes alone or nothing name the root, and a tilde
in front names nothing. -/
def directory? (text : String) : Option FilePath :=
  if text.toList.all (· = '/') then some ⟨1, []⟩
  else if text.toList.head? = some '~' then .none
  else some (.ofString text)

def find (h : Homes) (user : String) : Except Fault FilePath :=
  if user.toList.contains '\x00' then .error .badValue
  else match (h.text? user).bind directory? with
    | some home => .ok home
    | .none => .error .homeUnknown

def expand (h : Homes) (p : FilePath) : Except Fault FilePath :=
  match p.isAbsolute, p.names with
  | false, n :: rest =>
    match Text.dropPrefix? ['~'] n.toList with
    | some user =>
      (h.find (String.ofList user)).map fun home => { home with names := home.names ++ rest }
    | .none => .ok p
  | _, _ => .ok p

end Homes
end ClientCompiler
