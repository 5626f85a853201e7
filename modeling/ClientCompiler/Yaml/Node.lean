import ClientCompiler.Yaml.Implicit
import ClientCompiler.Yaml.Token

/-!
The graph of a document: scalars, sequences and mappings with their tags. Nodes are known by their
numbers, so an alias is the node that was anchored before it, and a node may hold itself.
-/

namespace ClientCompiler.Yaml

/-- A node, whose parts are known by their numbers. -/
inductive Node where
  | scalar (tag : Tag) (text : List Char)
  | sequence (tag : Tag) (items : List Nat)
  | mapping (tag : Tag) (entries : List (Nat × Nat))
  deriving Repr

abbrev Graph := Array Node

namespace Node

def tag : Node → Tag
  | .scalar t _ => t
  | .sequence t _ => t
  | .mapping t _ => t

def withTag (t : Tag) : Node → Node
  | .scalar _ text => .scalar t text
  | .sequence _ items => .sequence t items
  | .mapping _ entries => .mapping t entries

def absent : Node := .scalar .null []

end Node

namespace Graph

def node (g : Graph) (id : Nat) : Node := g.getD id .absent

def tag (g : Graph) (id : Nat) : Tag := (g.node id).tag

def entries? (g : Graph) (id : Nat) : Option (List (Nat × Nat)) :=
  match g.node id with
  | .mapping _ es => some es
  | _ => none

def setEntries (g : Graph) (id : Nat) (es : List (Nat × Nat)) : Graph :=
  g.setIfInBounds id (.mapping (g.tag id) es)

def setTag (g : Graph) (id : Nat) (t : Tag) : Graph := g.setIfInBounds id ((g.node id).withTag t)

end Graph

/-- The tokens that are left, the nodes that were anchored, the nodes so far, and the numbers of the
finished ones, the last one first. -/
structure Reading where
  tokens : List Token
  anchors : List (List Char × Nat)
  graph : Graph
  finished : List Nat

namespace Reading

def next? (s : Reading) : Option Token := s.tokens.head?

def drop (s : Reading) : Reading := { s with tokens := s.tokens.drop 1 }

/-- Starts a node, so that its parts may refer to it. An anchor may be used once. -/
def start (anchor : Option (List Char)) (n : Node) (s : Reading) : Except Failure (Nat × Reading) :=
  let id := s.graph.size
  let begun : Reading := { s with graph := s.graph.push n }
  match anchor with
  | none => .ok (id, begun)
  | some a =>
    if (s.anchors.lookup a).isSome then .error .malformed
    else .ok (id, { begun with anchors := (a, id) :: s.anchors })

def finish (id : Nat) (n : Node) (s : Reading) : Nat × Reading :=
  (id, { s with graph := s.graph.setIfInBounds id n, finished := id :: s.finished })

def leaf (anchor : Option (List Char)) (n : Node) (s : Reading) : Except Failure (Nat × Reading) := do
  let (id, s) ← s.start anchor n
  return s.finish id n

def absent (s : Reading) : Except Failure (Nat × Reading) := s.leaf none .absent

def properties (s : Reading) : Option (List Char) × Option WrittenTag × Reading :=
  match s.tokens with
  | .anchor a :: .tag t :: r => (some a, some t, { s with tokens := r })
  | .tag t :: .anchor a :: r => (some a, some t, { s with tokens := r })
  | .anchor a :: r => (some a, none, { s with tokens := r })
  | .tag t :: r => (none, some t, { s with tokens := r })
  | _ => (none, none, s)

def expect (t : Token) (s : Reading) : Except Failure Reading :=
  if s.next? = some t then .ok s.drop else .error .malformed

def at? (ts : List Token) (s : Reading) : Bool := s.next?.any ts.contains

end Reading

/-- Where a node stands: a block may start there, or a sequence at the column of its mapping. -/
inductive Position where
  | block
  | mappingValue
  | flow
  deriving DecidableEq, Repr

/-- The tag of a scalar: the one that is written, or the one its text suggests if it is plain. -/
def scalarTag (written : Option WrittenTag) (uri : Option (List Char)) (text : List Char)
    (plain : Bool) : Tag :=
  match uri with
  | some u => Tag.ofUri u
  | none => if plain || written.isSome then plainTag text else .str

def sequenceOf (anchor : Option (List Char)) (t : Tag)
    (items : Reading → Except Failure (List Nat × Reading)) (s : Reading) :
    Except Failure (Nat × Reading) := do
  let (id, s) ← s.start anchor (.sequence t [])
  let (is, s) ← items s
  return s.finish id (.sequence t is)

def mappingOf (anchor : Option (List Char)) (t : Tag)
    (entries : Reading → Except Failure (List (Nat × Nat) × Reading)) (s : Reading) :
    Except Failure (Nat × Reading) := do
  let (id, s) ← s.start anchor (.mapping t [])
  let (es, s) ← entries s
  return s.finish id (.mapping t es)

mutual

def node (handles : TagHandles) : Nat → Position → Reading → Except Failure (Nat × Reading)
  | 0, _, _ => .error .malformed
  | fuel + 1, position, s =>
    match s.next? with
    | some (.reference name) =>
      match s.anchors.lookup name with
      | some n => .ok (n, s.drop)
      | none => .error .malformed
    | _ => do
      let (anchor, written, s) := s.properties
      let uri ← match written with
        | some t => t.resolve handles
        | none => .ok none
      let tagOr (t : Tag) : Tag := (uri.map Tag.ofUri).getD t
      match s.next? with
      | some (.scalar text plain) => s.drop.leaf anchor (.scalar (scalarTag written uri text plain) text)
      | some .flowSequenceStart =>
        sequenceOf anchor (tagOr .seq) (flowItems handles fuel true) s.drop
      | some .flowMappingStart =>
        mappingOf anchor (tagOr .map) (flowEntries handles fuel true) s.drop
      | some .blockEntry =>
        if position = .mappingValue then sequenceOf anchor (tagOr .seq) (alignedItems handles fuel) s
        else missing anchor written uri s
      | some .blockSequenceStart =>
        if position = .flow then missing anchor written uri s
        else sequenceOf anchor (tagOr .seq) (blockItems handles fuel) s.drop
      | some .blockMappingStart =>
        if position = .flow then missing anchor written uri s
        else mappingOf anchor (tagOr .map) (blockEntries handles fuel) s.drop
      | _ => missing anchor written uri s
  termination_by structural fuel => fuel

def missing (anchor : Option (List Char)) (written : Option WrittenTag) (uri : Option (List Char))
    (s : Reading) : Except Failure (Nat × Reading) :=
  if anchor.isSome || written.isSome then
    s.leaf anchor (.scalar (scalarTag written uri [] true) [])
  else .error .malformed

/-- A node, unless a token comes next that shows that it is not written. -/
def nodeUnless (handles : TagHandles) (stops : List Token) :
    Nat → Position → Reading → Except Failure (Nat × Reading)
  | 0, _, _ => .error .malformed
  | fuel + 1, position, s =>
    if s.at? stops then s.absent else node handles fuel position s
  termination_by structural fuel => fuel

def blockItems (handles : TagHandles) : Nat → Reading → Except Failure (List Nat × Reading)
  | 0, _ => .error .malformed
  | fuel + 1, s => do
    if s.next? = some .blockEntry then
      let (n, s) ← nodeUnless handles [.blockEntry, .blockEnd] fuel .block s.drop
      let (ns, s) ← blockItems handles fuel s
      return (n :: ns, s)
    else return ([], ← s.expect .blockEnd)
  termination_by structural fuel => fuel

def alignedItems (handles : TagHandles) : Nat → Reading → Except Failure (List Nat × Reading)
  | 0, _ => .error .malformed
  | fuel + 1, s => do
    if s.next? = some .blockEntry then
      let (n, s) ← nodeUnless handles [.blockEntry, .key, .value, .blockEnd] fuel .block s.drop
      let (ns, s) ← alignedItems handles fuel s
      return (n :: ns, s)
    else return ([], s)
  termination_by structural fuel => fuel

/-- The value after a colon; a value without one is not written. -/
def valueAfterColon (handles : TagHandles) (stops : List Token) :
    Nat → Position → Reading → Except Failure (Nat × Reading)
  | 0, _, _ => .error .malformed
  | fuel + 1, position, s =>
    if s.next? = some .value then nodeUnless handles stops fuel position s.drop
    else s.absent
  termination_by structural fuel => fuel

def blockEntries (handles : TagHandles) : Nat → Reading → Except Failure (List (Nat × Nat) × Reading)
  | 0, _ => .error .malformed
  | fuel + 1, s => do
    let stops := [.key, .value, .blockEnd]
    if s.next? = some .key then
      let (k, s) ← nodeUnless handles stops fuel .mappingValue s.drop
      let (v, s) ← valueAfterColon handles stops fuel .mappingValue s
      let (es, s) ← blockEntries handles fuel s
      return ((k, v) :: es, s)
    else return ([], ← s.expect .blockEnd)
  termination_by structural fuel => fuel

/-- The items of a sequence in brackets; one with a key is a mapping of its own. -/
def flowItems (handles : TagHandles) : Nat → Bool → Reading → Except Failure (List Nat × Reading)
  | 0, _, _ => .error .malformed
  | fuel + 1, first, s => do
    if s.next? = some .flowSequenceEnd then return ([], s.drop)
    let s ← if first then Except.ok s else s.expect .flowEntry
    if s.next? = some .flowSequenceEnd then return ([], s.drop)
    let pair (s : Reading) : Except Failure (List (Nat × Nat) × Reading) := do
      let (k, s) ← nodeUnless handles [.value, .flowEntry, .flowSequenceEnd] fuel .flow s.drop
      let (v, s) ← valueAfterColon handles [.flowEntry, .flowSequenceEnd] fuel .flow s
      return ([(k, v)], s)
    let (n, s) ← if s.next? = some .key then mappingOf none .map pair s else node handles fuel .flow s
    let (ns, s) ← flowItems handles fuel false s
    return (n :: ns, s)
  termination_by structural fuel => fuel

def flowEntries (handles : TagHandles) :
    Nat → Bool → Reading → Except Failure (List (Nat × Nat) × Reading)
  | 0, _, _ => .error .malformed
  | fuel + 1, first, s => do
    if s.next? = some .flowMappingEnd then return ([], s.drop)
    let s ← if first then Except.ok s else s.expect .flowEntry
    if s.next? = some .flowMappingEnd then return ([], s.drop)
    let (k, v, s) ← if s.next? = some .key then (do
        let (k, s) ← nodeUnless handles [.value, .flowEntry, .flowMappingEnd] fuel .flow s.drop
        let (v, s) ← valueAfterColon handles [.flowEntry, .flowMappingEnd] fuel .flow s
        return (k, v, s) : Except Failure (Nat × Nat × Reading))
      else (do
        let (k, s) ← node handles fuel .flow s
        let (v, s) ← s.absent
        return (k, v, s) : Except Failure (Nat × Nat × Reading))
    let (es, s) ← flowEntries handles fuel false s
    return ((k, v) :: es, s)
  termination_by structural fuel => fuel

end

def declaredHandles : List Token → Bool → TagHandles → Except Failure (TagHandles × List Token)
  | .directive d :: ts, sawVersion, handles =>
    match d with
    | .version major =>
      if sawVersion || major ≠ 1 then .error .malformed else declaredHandles ts true handles
    | .handle name stands =>
      if (handles.lookup name).isSome then .error .malformed
      else declaredHandles ts sawVersion (handles ++ [(name, stands)])
    | .unknown => declaredHandles ts sawVersion handles
  | ts, _, handles => .ok (handles ++ defaultHandles, ts)

def nothingAfter (s : Reading) : Except Failure Unit :=
  if s.tokens.all (· = .documentEnd) then .ok () else .error .malformed

def isMargin : Token → Bool
  | .directive _ => true
  | .documentStart => true
  | .documentEnd => true
  | _ => false

/-- A document: its graph, the number of its root, and the numbers of its nodes in the order in which
they were finished. -/
structure Document where
  root : Nat
  graph : Graph
  finished : List Nat

def Document.ofTokens (ts : List Token) : Except Failure (Option Document) := do
  let fuel := 4 * ts.length + 8
  match ts with
  | [] => return none
  | t :: _ =>
    let isExplicit := isMargin t && t ≠ .documentEnd
    let (handles, ts) ← if isExplicit then declaredHandles ts false [] else .ok (defaultHandles, ts)
    let s : Reading := ⟨ts, [], #[], []⟩
    let s ← if isExplicit then s.expect .documentStart else .ok s
    let (root, s) ← if isExplicit && s.next?.all isMargin then s.absent
      else node handles fuel .block s
    nothingAfter s
    return some ⟨root, s.graph, s.finished.reverse⟩

end ClientCompiler.Yaml
