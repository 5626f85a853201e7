import ClientCompiler.Client.Basic
import ClientCompiler.Value

/-!
The compiled client as a value, with or without its empty fields.
-/

namespace ClientCompiler

structure Client where
  models : List Model
  modules : List ApiModule
  source : Value.Entries

namespace Manifest

/-- A field of an object; `keepNull` tells whether it is kept when it is null. -/
def optional (keepNull : Bool) (name : String) (v : Option String) : Value.Entries :=
  match v with
  | some s => [(.str name, .str s)]
  | none => if keepNull then [(.str name, .null)] else []

def ofProperty (keepNull : Bool) (p : Property) : Value :=
  .map ([(.str "name", .str p.name), (.str "type", .str p.type),
    (.str "required", .bool p.required)] ++ optional keepNull "description" p.description)

def ofModel (keepNull : Bool) (m : Model) : Value :=
  .map ([(.str "name", .str m.name)] ++ optional keepNull "title" m.title ++
    [(.str "generics", .list (m.generics.map .str)),
     (.str "properties", .list (m.properties.map (ofProperty keepNull)))])

def ofParameter (p : Parameter) : Value :=
  .map [(.str "name", .str p.name), (.str "in", .str p.location.name), (.str "type", .str p.type),
    (.str "required", .bool p.required)]

def ofOperation (keepNull : Bool) (o : Operation) : Value :=
  .map ([(.str "name", .str o.name), (.str "method", .str o.method.name),
    (.str "path", .str o.path)] ++ optional keepNull "description" o.description ++
    [(.str "returnType", .str o.returnType),
     (.str "parameters", .list (o.parameters.map ofParameter))])

def ofModule (keepNull : Bool) (m : ApiModule) : Value :=
  .map ([(.str "name", .str m.name)] ++ optional keepNull "description" m.description ++
    [(.str "operations", .list (m.operations.map (ofOperation keepNull))),
     (.str "imports", .list (m.imports.map .str))])

end Manifest

def Client.manifest (c : Client) : Value :=
  .map [(.str "models", .list (c.models.map (Manifest.ofModel false))),
    (.str "modules", .list (c.modules.map (Manifest.ofModule false)))]

end ClientCompiler
