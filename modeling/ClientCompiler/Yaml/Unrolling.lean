import ClientCompiler.Yaml.Construction

/-!
The value of a document. A node that holds itself is unrolled some times; where it goes on without
end, `again` stands for it.
-/

namespace ClientCompiler.Yaml

def Part.held : Part → List Nat
  | .list ids => ids
  | .pairs es => es.flatMap fun (k, v) => [k, v]
  | .map es => es.map Prod.snd
  | _ => []

def Part.valueWith (value : Nat → Value) : Part → Value
  | .value v => v
  | .waiting => .null
  | .list ids => .list (ids.map value)
  | .pairs es => .list (es.map fun (k, v) => .tuple [value k, value v])
  | .map es => .map (es.map fun (k, v) => (k, value v))
  | .set vs => .set vs

namespace Construction

/-- The values of the nodes that hold only nodes with values, which is so for every node that holds
itself nowhere. In the order in which they were finished each one comes after its parts. -/
def settled (c : Construction) (order : List Nat) : Array (Option Value) :=
  order.foldl (fun values id =>
    match c.part? id with
    | none => values
    | some p =>
      if p.held.all fun i => ((values[i]?).join).isSome then
        values.setIfInBounds id (some (p.valueWith fun i => ((values[i]?).join).getD .null))
      else values)
    (Array.replicate c.parts.size none)

def unrollings : Nat := 8

/-- The value of a node. `around` holds the nodes around it since the last unrolling. -/
def unrolled (c : Construction) (known : Array (Option Value)) : Nat → Nat → List Nat → Nat → Value
  | 0, _, _, _ => .null
  | fuel + 1, left, around, id =>
    match (known[id]?).join, c.part? id with
    | some v, _ => v
    | none, none => .null
    | none, some p =>
      if around.contains id then
        match p, left with
        | .map _, left + 1 => p.valueWith (unrolled c known fuel left [id])
        | .map _, 0 => .again true
        | _, _ => .again false
      else p.valueWith (unrolled c known fuel left (id :: around))

def value (c : Construction) (d : Document) : Value :=
  unrolled c (c.settled d.finished) ((unrollings + 1) * (c.parts.size + 1)) unrollings [] d.root

end Construction

/-- The value of the one document in a text; a text without a document stands for null. -/
def parse (text : List Char) : Except Failure Value := do
  match ← Document.ofTokens (← tokens text) with
  | none => return .null
  | some d => return (← Construction.ofDocument d).value d

end ClientCompiler.Yaml
