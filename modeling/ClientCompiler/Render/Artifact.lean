import ClientCompiler.Client.Manifest
import ClientCompiler.Render.Packaged
import ClientCompiler.Template.Render

/-!
The text of the types of a client and of its modules.
-/

namespace ClientCompiler

namespace Render

open Template

/-! ## What templates see -/

def listOf {α : Type} (f : α → Datum) (xs : List α) : Datum := .list (xs.map f)

def methodChoice : Choice := ⟨"HTTPMethod", Method.all.map fun m => (m.title, m.name.toList)⟩

def methodDatum (m : Method) : Datum := .member methodChoice m.title m.name.toList

def locationTitle : Location → String
  | .query => "QUERY"
  | .header => "HEADER"
  | .path => "PATH"
  | .cookie => "COOKIE"
  | .formData => "FORM_DATA"
  | .body => "BODY"

def locationChoice : Choice :=
  ⟨"ParameterLocation", Location.all.map fun l => (locationTitle l, l.name.toList)⟩

def locationDatum (l : Location) : Datum := .member locationChoice (locationTitle l) l.name.toList

def propertyDatum (p : Property) : Datum :=
  .record "ModelProperty" [("name", .ofString p.name), ("type", .ofString p.type),
    ("required", .bool p.required), ("description", .ofOption p.description)]

def modelDatum (m : Model) : Datum :=
  .record "ModelDefinition" [("name", .ofString m.name), ("title", .ofOption m.title),
    ("generics", listOf Datum.ofString m.generics), ("properties", listOf propertyDatum m.properties)]

def parameterDatum (p : Parameter) : Datum :=
  .record "Parameter" [("name", .ofString p.name), ("location", locationDatum p.location),
    ("type", .ofString p.type), ("required", .bool p.required)]

def operationDatum (o : Operation) : Datum :=
  .record "Operation" [("name", .ofString o.name), ("method", methodDatum o.method),
    ("path", .ofString o.path), ("description", .ofOption o.description),
    ("return_type", .ofString o.returnType), ("parameters", listOf parameterDatum o.parameters)]

/-- The fields of a module, which are also names of their own in its templates. -/
def moduleFields (m : ApiModule) : Names :=
  [("name", .ofString m.name), ("description", .ofOption m.description),
    ("operations", listOf operationDatum m.operations), ("imports", listOf Datum.ofString m.imports)]

def moduleNames (m : ApiModule) : Names := ("module", .record "Module" (moduleFields m)) :: moduleFields m

/-! ## Texts -/

def writeOut (chance : Chance) (template : Rendering Program) (names : Names) :
    Except Fault (List Char) :=
  (template.bind (render chance · names)).mapError fun f => f.ofValue?.getD .unfit

def typesText (chance : Chance) (models : List Model) : Except Fault (List Char) :=
  writeOut chance (parse Packaged.types.toList) [("models", listOf modelDatum models)]

abbrev ModuleTemplates := Slots Program

def readTemplates (texts : Slots String) : Except Fault ModuleTemplates :=
  texts.traverse fun slot text =>
    (parse text.toList).mapError fun f => f.ofValue?.getD (.config (.templateMalformed slot.name))

def slotText (chance : Chance) (templates : ModuleTemplates) (slot : Slot) (names : Names) :
    Except Fault (List Char) :=
  (render chance (templates.get slot) names).mapError fun f =>
    f.ofValue?.getD (.config (.templateFailed slot.name))

/-- The text of a module: header, body and footer each on their own, put together by the wrapper. -/
def moduleText (chance : Chance) (templates : ModuleTemplates) (m : ApiModule) :
    Except Fault (List Char) := do
  let names := moduleNames m
  let header ← slotText chance templates .header names
  let body ← slotText chance templates .body names
  let footer ← slotText chance templates .footer names
  slotText chance templates .wrapper (names ++ [("module_header", .text header),
    ("module_body", .text body), ("module_footer", .text footer)])

end Render

/-- What makes the texts of a client: the chance that its types have, which the packaged template
declares, and what templates for the slots make of modules. It may refuse the templates, and it may
fail on a module. -/
structure Renderer where
  chance : Template.Chance
  modules : Slots String → Except Fault (ApiModule → Except Fault (List Char))

def Render.renderer (chance : Template.Chance) : Renderer :=
  ⟨chance, fun texts => (readTemplates texts).map (moduleText chance)⟩

end ClientCompiler
