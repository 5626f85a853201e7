import ClientCompiler.Yaml.Merge
import ClientCompiler.Yaml.ScalarValue

/-!
What the nodes of a document stand for. A scalar is read when it is met, and a collection is filled
after everything that was met before it; so of several failures the one counts that comes first in
this order.
-/

namespace ClientCompiler.Yaml

/-- What a node stands for, as far as it is known. The values in a collection are nodes; its keys are
scalars. -/
inductive Part where
  | value (v : Value)
  | waiting
  | list (items : List Nat)
  | pairs (entries : List (Nat × Nat))
  | map (entries : List (Value × Nat))
  | set (members : List Value)
  deriving Repr, Inhabited

/-- The graph, of which merging changes the mappings, what its nodes stand for, and the collections
that wait. -/
structure Construction where
  graph : Graph
  parts : Array (Option Part)
  queue : List Nat

namespace Construction

def start (g : Graph) : Construction := ⟨g, Array.replicate g.size none, []⟩

def part? (c : Construction) (id : Nat) : Option Part := (c.parts[id]?).join

def setPart (id : Nat) (p : Part) (c : Construction) : Construction :=
  { c with parts := c.parts.setIfInBounds id (some p) }

/-! ## Scalars -/

/-- The text of a scalar; a mapping with a value key has the text of that value. The fuel runs out
only where a mapping is the value of its own value key. -/
def textOf (g : Graph) : Nat → Nat → Except Failure (List Char)
  | 0, _ => .error .endless
  | fuel + 1, id =>
    match g.node id with
    | .scalar _ text => .ok text
    | .sequence .. => .error .malformed
    | .mapping _ es =>
      match es.find? fun e => g.tag e.1 = .value with
      | some e => textOf g fuel e.2
      | none => .error .malformed

inductive Kind where
  | scalar (read : List Char → Except Failure Value)
  | collection
  | unknown

/-- A date is read from the node itself, which has to be a scalar. -/
def kindOf (n : Node) : Kind :=
  match n.tag with
  | .null => .scalar fun _ => .ok .null
  | .bool => .scalar boolValue
  | .int => .scalar intValue
  | .float => .scalar floatValue
  | .binary => .scalar binaryValue
  | .timestamp => .scalar fun text => match n with
    | .scalar .. => timestampValue text
    | _ => .error .unfit
  | .str => .scalar fun text => .ok (.str (String.ofList text))
  | .seq => .collection
  | .omap => .collection
  | .pairs => .collection
  | .map => .collection
  | .set => .collection
  | .merge => .unknown
  | .value => .unknown
  | .other _ => .unknown

/-- Meets a node: a scalar is read, and a collection waits to be filled. A node is met only once. -/
def meet (c : Construction) (id : Nat) : Except Failure Construction :=
  match c.part? id with
  | some _ => .ok c
  | none =>
    match kindOf (c.graph.node id) with
    | .scalar read => do
      let text ← textOf c.graph (c.graph.size + 1) id
      return c.setPart id (.value (← read text))
    | .collection => .ok { c.setPart id .waiting with queue := id :: c.queue }
    | .unknown => .error .malformed

/-! ## Collections -/

def meetAll (c : Construction) (ids : List Nat) : Except Failure Construction := ids.foldlM meet c

def meetPairs : Construction → List Nat → Except Failure (Construction × List (Nat × Nat))
  | c, [] => .ok (c, [])
  | c, id :: ids => do
    match c.graph.entries? id with
    | some [(k, v)] =>
      let c ← (← c.meet k).meet v
      let (c, rest) ← meetPairs c ids
      return (c, (k, v) :: rest)
    | _ => throw .malformed

/-- A key of a mapping. `mark` tells apart the keys that are no number; equal marks are one key. -/
structure Key where
  value : Value
  mark : Option Nat

def Key.same (k l : Key) : Bool := k.mark == l.mark && k.value.same l.value

/-- The key that a node is: the plain word for no number is the same key everywhere. -/
def keyOf (g : Graph) (id : Nat) (v : Value) : Key :=
  match v, textOf g (g.size + 1) id with
  | .float .nan, .ok text => ⟨v, some (if isWordForNoNumber text then 0 else id + 1)⟩
  | _, _ => ⟨v, none⟩

def store (key : Key) (value : Nat) : List (Key × Nat) → List (Key × Nat)
  | [] => [(key, value)]
  | (k, v) :: kvs => if k.same key then (k, value) :: kvs else (k, v) :: store key value kvs

/-- The entries of a mapping, met in order. A collection is not a key. -/
def meetEntries :
    Construction → List (Key × Nat) → List (Nat × Nat) →
      Except Failure (Construction × List (Key × Nat))
  | c, found, [] => .ok (c, found)
  | c, found, (k, v) :: rest => do
    let c ← c.meet k
    match c.part? k with
    | some (.value key) =>
      let c ← c.meet v
      meetEntries c (store (keyOf c.graph k key) v found) rest
    | _ => throw .malformed

def mapping (c : Construction) (id : Nat) : Except Failure (Construction × List (Value × Nat)) := do
  if (c.graph.entries? id).isNone then throw .malformed
  let graph ← c.graph.merged id
  let (c, found) ← meetEntries { c with graph } [] ((graph.entries? id).getD [])
  return (c, found.map fun (k, v) => (k.value, v))

def fill (c : Construction) (id : Nat) : Except Failure Construction :=
  match c.graph.node id, c.graph.tag id with
  | .sequence _ ids, .seq => do return (← c.meetAll ids).setPart id (.list ids)
  | .sequence _ ids, .omap => do
    let (c, entries) ← c.meetPairs ids
    return c.setPart id (.pairs entries)
  | .sequence _ ids, .pairs => do
    let (c, entries) ← c.meetPairs ids
    return c.setPart id (.pairs entries)
  | .mapping .., .map => do
    let (c, entries) ← c.mapping id
    return c.setPart id (.map entries)
  | .mapping .., .set => do
    let (c, entries) ← c.mapping id
    return c.setPart id (.set (entries.map Prod.fst))
  | _, _ => .error .malformed

def rounds : Nat → Construction → Except Failure Construction
  | 0, c => .ok c
  | fuel + 1, c =>
    match c.queue.reverse with
    | [] => .ok c
    | ids => do rounds fuel (← ids.foldlM fill { c with queue := [] })

/-- What the nodes of a document stand for. Each round fills a node that no round before it did. -/
def ofDocument (d : Document) : Except Failure Construction := do
  rounds (d.graph.size + 1) (← (start d.graph).meet d.root)

end Construction
end ClientCompiler.Yaml
