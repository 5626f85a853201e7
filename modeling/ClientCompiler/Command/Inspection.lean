import ClientCompiler.Client.Basic
import ClientCompiler.Console.Table

/-!
Tables that show what a document compiles to.
-/

namespace ClientCompiler.Inspection

def maxProperties : Nat := 5

def propertyText (p : Property) : String := p.name ++ (if p.required then "*" else "") ++ ": " ++ p.type

def propertiesText (ps : List Property) : String :=
  ", ".intercalate ((ps.map propertyText).take maxProperties) ++
    if ps.length > maxProperties then "..." else ""

def orHyphen (s : String) : String := if s.isEmpty then "-" else s

def modelRow (m : Model) : List String :=
  [m.name, orHyphen (", ".intercalate m.generics), propertiesText m.properties]

def modelTable (models : List Model) : Table :=
  ⟨["Model", "Generics", "Properties"], models.map modelRow, some s!"Models ({models.length})"⟩

def operationRow (m : ApiModule) (o : Operation) : List String :=
  [m.name, o.name, o.method.title, o.path, orHyphen o.returnType]

def moduleTable (modules : List ApiModule) : Table :=
  let rows := modules.flatMap fun m => m.operations.map (operationRow m)
  ⟨["Module", "Operation", "Method", "Path", "Returns"], rows, some s!"Operations ({rows.length})"⟩

end ClientCompiler.Inspection
