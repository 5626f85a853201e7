import ClientCompiler.Text.Blank

/-!
Names of module files: signs that some file system forbids give way to underscores.
-/

namespace ClientCompiler.FileName

def isUnsafe (c : Char) : Bool :=
  c = '\\' || c = '/' || c = ':' || c = '*' || c = '?' || c = '"' || c = '<' || c = '>' || c = '|'

/-- One underscore for every run of unsafe signs; `inRun` tells that the last sign was one. -/
def replaceRuns (inRun : Bool) : List Char → List Char
  | [] => []
  | c :: cs =>
    if isUnsafe c then if inRun then replaceRuns true cs else '_' :: replaceRuns true cs
    else c :: replaceRuns false cs

def ofModule (name : String) : String :=
  let s := Text.trim (replaceRuns false name.toList)
  if s.isEmpty then "default" else String.ofList s

end ClientCompiler.FileName
