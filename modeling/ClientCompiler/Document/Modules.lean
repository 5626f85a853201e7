import ClientCompiler.Client.Manifest
import ClientCompiler.Client.Validation
import ClientCompiler.Document.Definitions
import ClientCompiler.Document.Operations

/-!
One module for each tag, and the compilation of a whole document.
-/

namespace ClientCompiler

def dedupe : List String → List String
  | [] => []
  | n :: ns => n :: (dedupe ns).filter (· ≠ n)

namespace Modules

def namesMethod : Value → Bool
  | .str k => (Method.all.map (·.name)).contains (String.ofList (Text.lowerAscii k.toList))
  | _ => false

def itemTags : Value.Entries → Except Fault (List Value)
  | [] => .ok []
  | (key, .map operation) :: kvs =>
    if namesMethod key then do
      let tags ← Shape.members (Shape.orEmptyList (Value.fieldD "tags" operation))
      return tags ++ (← itemTags kvs)
    else itemTags kvs
  | _ :: kvs => itemTags kvs

def pathTags : Value.Entries → Except Fault (List Value)
  | [] => .ok []
  | (_, .map item) :: kvs => do
    let tags ← itemTags item
    return tags ++ (← pathTags kvs)
  | _ :: kvs => pathTags kvs

def distinct : List Value → List Value
  | [] => []
  | v :: vs => v :: (distinct vs).filter fun w => !v.same w

def declaredTags : List Value → List (Value × Value)
  | [] => []
  | .map kvs :: rest =>
    let name := Value.fieldD "name" kvs
    if name.truthy then (name, Value.fieldD "description" kvs) :: declaredTags rest
    else declaredTags rest
  | _ :: rest => declaredTags rest

/-- The tags of a document: the declared ones, or else those of its operations. -/
def tags (document : Value.Entries) : Except Fault (List (Value × Value)) :=
  match Value.fieldD "tags" document with
  | .null => do
    let paths ← Shape.entries (Shape.orEmptyMap (Value.fieldD "paths" document))
    return (distinct (← pathTags paths)).map (·, .null)
  | declared => (Shape.items declared).map declaredTags

def ofTag (table : TypeTable) (registry : List String) (document : Value.Entries)
    (tag : Value × Value) : Traced ApiModule := do
  let found ← Operations.ofDocument table registry (.map document) tag.1
  Traced.lift (Shape.accept (Shape.textAt "name" tag.1 ++ Shape.optionalTextAt "description" tag.2))
  return ⟨Shape.textD tag.1, Shape.text? tag.2, found.operations, dedupe found.imports⟩

def ofDocument (table : TypeTable) (registry : List String) (document : Value) :
    Traced (List ApiModule) := do
  let fields ← Traced.lift (Shape.entries document)
  let found ← Traced.lift (tags fields)
  Traced.each (ofTag table registry fields) found

end Modules

/-- Compiles a document: models first, so that operations are checked against all of them. -/
def compile (table : TypeTable) (document : Value) : Traced Client := do
  let fields ← Traced.lift (Shape.entries document)
  let models ← modelsOf table (Shape.orEmptyMap (Value.fieldD "definitions" fields))
  let modules ← Modules.ofDocument table (models.map (·.name)) document
  let source ← Traced.lift (Checked.within (.name "raw_spec") (Validation.textKeyed document)).orFault
  return ⟨models, modules, source⟩

end ClientCompiler
