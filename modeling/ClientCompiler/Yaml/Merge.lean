import ClientCompiler.Yaml.Node

/-!
Merging. A merge key gives a mapping the entries of another one, or of several ones, in front of its
own; where a merge key stood nothing is left.
-/

namespace ClientCompiler.Yaml.Graph

/-- The entries of mappings that are merged first themselves; the last mapping comes first. -/
def lentBy (merge : Graph → Nat → Except Failure Graph) :
    Graph → List Nat → Except Failure (Graph × List (Nat × Nat))
  | g, [] => .ok (g, [])
  | g, id :: ids => do
    match g.entries? id with
    | none => throw .malformed
    | some _ =>
      let g ← merge g id
      let own := (g.entries? id).getD []
      let (g, rest) ← lentBy merge g ids
      return (g, rest ++ own)

def lent (merge : Graph → Nat → Except Failure Graph) (g : Graph) (value : Nat) :
    Except Failure (Graph × List (Nat × Nat)) :=
  match g.node value with
  | .mapping .. => lentBy merge g [value]
  | .sequence _ ids => lentBy merge g ids
  | .scalar .. => .error .malformed

/-- Goes through the entries of a mapping that are left. `done` holds the ones before them, the last
one first, and `merged` what was lent so far. A mapping that merges itself is finished on the way;
then nothing is left to do. -/
def mergeRest (merge : Graph → Nat → Except Failure Graph) (id : Nat) :
    Graph → List (Nat × Nat) → List (Nat × Nat) → List (Nat × Nat) → Except Failure Graph
  | g, done, merged, [] => .ok (if merged.isEmpty then g else g.setEntries id (merged ++ done.reverse))
  | g, done, merged, (k, v) :: rest =>
    match g.tag k with
    | .merge => do
      let left := done.reverse ++ rest
      let (g, more) ← lent merge (g.setEntries id left) v
      let merged := merged ++ more
      let now := (g.entries? id).getD []
      if now = left then mergeRest merge id g done merged rest
      else return g.setEntries id (merged ++ now)
    | .value => mergeRest merge id (g.setTag k .str) ((k, v) :: done) merged rest
    | _ => mergeRest merge id g ((k, v) :: done) merged rest

/-- Merges a mapping. Each mapping that is merged on the way has lost a merge key before, so that their
number bounds the depth. -/
def mergeWithin : Nat → Graph → Nat → Except Failure Graph
  | 0, _, _ => .error .endless
  | fuel + 1, g, id => mergeRest (mergeWithin fuel) id g [] [] ((g.entries? id).getD [])

def entryCount (g : Graph) : Nat :=
  g.foldl (fun n node => match node with
    | .mapping _ es => n + es.length
    | _ => n) 0

/-- A graph in which a mapping has no merge keys, and the key that stands for its text is a text. -/
def merged (g : Graph) (id : Nat) : Except Failure Graph := mergeWithin (g.entryCount + 1) g id

end ClientCompiler.Yaml.Graph
