import ClientCompiler.Render.Comment
import ClientCompiler.Render.PropertyKey
import ClientCompiler.Template.Method

/-!
The filters of templates: what is made of the datum before a bar. Filters that are not named here are
unknown. A stream can be gone through more than once.
-/

namespace ClientCompiler.Template

/-- The filters that need more than their data. -/
def lateFilters : List String := ["random", "map", "select", "reject", "selectattr", "rejectattr"]

def filterNames : List String :=
  ["join", "length", "count", "upper", "lower", "string", "trim", "replace", "default", "d", "first",
    "last", "reverse", "abs", "list", "doc_comment", "ts_property"] ++ lateFilters

namespace Datum

/-- A stream of items, which is broken if they could not be made. -/
def streamOf (description : String) : Rendering (List Datum) → Datum
  | .ok xs => .stream description xs none
  | .error f => .stream description [] (some f)

def length (d : Datum) : Rendering Datum :=
  match d with
  | .list xs => .ok (.int xs.length)
  | .tuple xs => .ok (.int xs.length)
  | .turn _ xs => .ok (.int xs.length)
  | .undefined => .ok (.int 0)
  | _ => match d.text? with
    | some s => .ok (.int s.length)
    | none => unfit

def propertyKey (d : Datum) : Rendering Datum :=
  match d.text? with
  | some s => .ok (if Render.isKey s then d else .text (Render.propertyKey s))
  | none => unfit

def last (d : Datum) : Rendering Datum :=
  match d.placed?, d with
  | some xs, _ => .ok (xs.getLastD .undefined)
  | none, .undefined => .ok .undefined
  | none, _ => unfit

def reversed (d : Datum) : Rendering Datum :=
  match d with
  | .list xs => .ok (.stream "list_reverseiterator object" xs.reverse none)
  | .tuple xs => .ok (.stream "reversed object" xs.reverse none)
  | .undefined => .ok (.stream "reversed object" [] none)
  | .stream _ _ none => d.items.map fun xs => .list xs.reverse
  | .record .. => d.items.map fun xs => .list xs.reverse
  | _ => match d.text? with
    | some s => .ok (.text s.reverse)
    | none => ofTemplate

def abs (d : Datum) : Rendering Datum :=
  match d, d.int? with
  | .float x, _ => .ok (.float (if x.isNegative then x.neg else x))
  | _, some i => .ok (.int i.natAbs)
  | _, none => unfit

def drawn (chance : Chance) (d : Datum) : Rendering Datum :=
  match d.placed?, d with
  | some [], _ => .ok .undefined
  | some xs, _ => .ok (xs.getD (chance.draw xs.length % xs.length) .undefined)
  | none, .undefined => .ok .undefined
  | none, _ => unfit

/-- The texts of the items, or of what a path leads to from them, with a separator between them. -/
def join (chance : Chance) (d separator path : Datum) : Rendering Datum := do
  let steps ← path.pathSteps
  let xs ← (← d.items).mapM (·.follow steps)
  return .text (Value.joined (separator.render chance) (xs.map (render chance)))

/-- Whether a datum passes the test that comes first among some arguments; without one it has to
hold. -/
def sifts (d : Datum) (args : List Datum) (named : List (String × Datum)) : Rendering Bool :=
  match args with
  | [] => .ok d.truthy
  | test :: args => d.passes (String.ofList (test.text?.getD [])) args named

def sifted (keeps : Bool) (d : Datum) (steps : Rendering (List Datum)) (args : List Datum)
    (named : List (String × Datum)) : Rendering (List Datum) :=
  if !d.truthy then .ok []
  else do
    let steps ← steps
    (← d.items).filterM fun x => return (← (← x.follow steps).sifts args named) == keeps

def siftedBy (keeps : Bool) (d : Datum) (args : List Datum) (named : List (String × Datum)) :
    Rendering (List Datum) :=
  match args with
  | path :: args => d.sifted keeps path.pathSteps args named
  | [] => d.sifted keeps ofTemplate [] named

def followOr (other : Option Datum) (d : Datum) (steps : List Datum) : Rendering Datum :=
  steps.foldlM (fun d step => do
    let found ← d.item step
    return if found.isUndefined then other.getD found else found) d

def filteredAlone (chance : Chance) (n : String) (d : Datum) (args : List Datum)
    (named : List (String × Datum)) : Rendering Datum :=
  let alone (made : Rendering Datum) : Rendering Datum := do
    let _ ← bindArguments [] args named
    made
  let text := d.text?.getD (d.render chance)
  match n with
  | "join" => do
    let given ← bindArguments ["d", "attribute"] args named
    d.join chance ((given.lookup "d").getD (.text [])) ((given.lookup "attribute").getD .nothing)
  | "length" => alone d.length
  | "count" => alone d.length
  | "upper" => alone (.ok (.text (Text.upper text)))
  | "lower" => alone (.ok (.text (Text.lower text)))
  | "string" => alone (.ok (if d.text?.isSome then d else .text text))
  | "trim" => do
    let given ← bindArguments ["chars"] args named
    stripped true true text ((given.lookup "chars").getD .nothing)
  | "replace" => do
    let given ← bindArguments ["old", "new", "count"] args named
    let count := match (given.lookup "count").getD .nothing with
      | .nothing => .int (-1)
      | count => count
    match given.lookup "old", given.lookup "new" with
    | some old, some new => replaced (d.render chance) (old.render chance) (new.render chance) count
    | _, _ => unfit
  | "first" => alone (d.items.map (·.headD .undefined))
  | "last" => alone d.last
  | "reverse" => alone d.reversed
  | "abs" => alone d.abs
  | "list" => alone (d.items.map .list)
  | "doc_comment" => alone (.ok (.text (Render.docComment (d.render chance))))
  | "ts_property" => alone d.propertyKey
  | _ =>
    if n = "default" || n = "d" then do
      let given ← bindArguments ["default_value", "boolean"] args named
      let ifFalse := ((given.lookup "boolean").getD (.bool false)).truthy
      return if d.isUndefined || (ifFalse && !d.truthy) then (given.lookup "default_value").getD (.text [])
        else d
    else ofTemplate

/-- What an attribute of the items is, or what a filter makes of them. No stream is made of each. -/
def mapped (chance : Chance) (d : Datum) (args : List Datum) (named : List (String × Datum)) :
    Rendering (List Datum) :=
  if !d.truthy then .ok []
  else match args, named.lookup "attribute" with
    | [], some path =>
      if !named.all fun (n, _) => n = "attribute" || n = "default" then ofTemplate
      else do
        let steps ← path.pathSteps
        let other := match named.lookup "default" with
          | some .nothing => none
          | other => other
        (← d.items).mapM (·.followOr other steps)
    | [], none => ofTemplate
    | n :: args, _ => do
      (← d.items).mapM fun x => x.filteredAlone chance (String.ofList (n.text?.getD [])) args named

def filtered (chance : Chance) (n : String) (d : Datum) (args : List Datum)
    (named : List (String × Datum)) : Rendering Datum :=
  match n with
  | "random" => do
    let _ ← bindArguments [] args named
    d.drawn chance
  | "map" => .ok (streamOf "generator object sync_do_map" (d.mapped chance args named))
  | "select" => .ok (streamOf sifting (d.sifted true (.ok []) args named))
  | "reject" => .ok (streamOf sifting (d.sifted false (.ok []) args named))
  | "selectattr" => .ok (streamOf sifting (d.siftedBy true args named))
  | "rejectattr" => .ok (streamOf sifting (d.siftedBy false args named))
  | _ => d.filteredAlone chance n args named
where
  sifting : String := "generator object select_or_reject"

end Datum
end ClientCompiler.Template
