import ClientCompiler.Text.Lower
import ClientCompiler.Web.Label

/-!
Names of hosts: labels with dots between them, and perhaps a dot at the end.
-/

namespace ClientCompiler.Web.HostName

def isDot (c : Char) : Bool := c = '.' || c = '。' || c = '．' || c = '｡'

def labels (name : List Char) : List (List Char) × Bool :=
  let parts := Text.splitOn '.' (name.map fun c => if isDot c then '.' else c)
  if 1 < parts.length && parts.getLast? = some [] then (parts.dropLast, true) else (parts, false)

def spelled (name : List Char) : Except HostFault (List Char) :=
  if Label.maxNameLength < name.length then Label.malformed
  else do
    let (parts, endsInDot) := labels name
    let s := Value.joined ['.'] (← parts.mapM Label.spelled)
    if Label.maxNameLength ≤ s.length then Label.malformed
    else .ok (if endsInDot then s ++ ['.'] else s)

def checkSpelled (name : List Char) : Except HostFault Unit :=
  if Label.maxNameLength < name.length then Label.malformed
  else (labels name).1.forM Label.checkSpelled

end ClientCompiler.Web.HostName
