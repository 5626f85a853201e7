import ClientCompiler.Toml.Scalar

/-!
Documents of TOML. A table may be opened once; what is written inline is closed for good. Values may
stand in one another to any depth.
-/

namespace ClientCompiler.Toml

abbrev Key := List String

/-- Changes the table at a key, and makes the tables on the way. Where `throughLists` holds, a list
of tables stands for its last table. -/
def changeAt (throughLists : Bool) (f : Value.Entries → Option Value.Entries) :
    Key → Value.Entries → Option Value.Entries
  | [], table => f table
  | k :: ks, table =>
    let put (v : Value) : Value.Entries := Value.insert (.str k) v table
    match Value.field k table with
    | none => (changeAt throughLists f ks []).map fun sub => put (.map sub)
    | some (.map sub) => (changeAt throughLists f ks sub).map fun sub => put (.map sub)
    | some (.list items) =>
      match throughLists, items.getLast? with
      | true, some (.map sub) =>
        (changeAt throughLists f ks sub).map fun sub => put (.list (items.dropLast ++ [.map sub]))
      | _, _ => none
    | some _ => none

def addNew (name : String) (v : Value) (table : Value.Entries) : Option Value.Entries :=
  if (Value.field name table).isSome then none else some (Value.insert (.str name) v table)

def addToList (name : String) (table : Value.Entries) : Option Value.Entries :=
  match Value.field name table with
  | none => some (Value.insert (.str name) (.list [.map []]) table)
  | some (.list items) => some (Value.insert (.str name) (.list (items ++ [.map []])) table)
  | some _ => none

def isCollection : Value → Bool
  | .list _ => true
  | .map _ => true
  | _ => false

/-! ## Keys and values -/

def isBare (c : Char) : Bool := c.isAlphanum || c = '-' || c = '_'

def keyPart (cs : List Char) : Except Failure (String × List Char) :=
  match cs.takeWhile isBare with
  | [] => (lineString cs).map fun (s, r) => (String.ofList s, r)
  | run => .ok (String.ofList run, cs.dropWhile isBare)

def key : Nat → List Char → Except Failure (Key × List Char)
  | 0, _ => malformed
  | fuel + 1, cs => do
    let (part, r) ← keyPart cs
    match skipBlank r with
    | '.' :: r =>
      let (parts, r) ← key fuel (skipBlank r)
      return (part :: parts, r)
    | r => return ([part], r)

def skipComment (cs : List Char) : Except Failure (List Char) :=
  match cs with
  | '#' :: r =>
    if (r.takeWhile (· ≠ '\n')).any isBarred then malformed else .ok (r.dropWhile (· ≠ '\n'))
  | r => .ok r

def skipBetween : Nat → List Char → Except Failure (List Char)
  | 0, _ => malformed
  | fuel + 1, cs =>
    match cs.dropWhile fun c => isBlank c || c = '\n' with
    | '#' :: r => do skipBetween fuel (← skipComment ('#' :: r))
    | r => .ok r

mutual

/-- One value. The fuel bounds the values and keys that are left. -/
def value : Nat → List Char → Except Failure (Value × List Char)
  | 0, _ => malformed
  | fuel + 1, cs =>
    match cs with
    | '"' :: _ => (string cs).map fun (s, r) => (.str (String.ofList s), r)
    | '\'' :: _ => (string cs).map fun (s, r) => (.str (String.ofList s), r)
    | 't' :: 'r' :: 'u' :: 'e' :: r => .ok (.bool true, r)
    | 'f' :: 'a' :: 'l' :: 's' :: 'e' :: r => .ok (.bool false, r)
    | '[' :: r => do
      let r ← skipBetween (r.length + 1) r
      let (items, r) ← arrayItems fuel r
      return (.list items, r)
    | '\x7b' :: r =>
      match skipBlank r with
      | '\x7d' :: r => .ok (.map [], r)
      | r => do
        let (table, r) ← inlineEntries fuel [] [] r
        return (.map table, r)
    | cs =>
      match calendar? cs with
      | some x => x
      | none => number cs

def arrayItems : Nat → List Char → Except Failure (List Value × List Char)
  | 0, _ => malformed
  | _ + 1, ']' :: r => .ok ([], r)
  | fuel + 1, cs => do
    let (v, r) ← value fuel cs
    let r ← skipBetween (r.length + 1) r
    match r with
    | ']' :: r => return ([v], r)
    | ',' :: r =>
      let r ← skipBetween (r.length + 1) r
      let (vs, r) ← arrayItems fuel r
      return (v :: vs, r)
    | _ => malformed

/-- The entries of an inline table up to its closing brace. `closed` holds the keys of collections,
into which later keys may not reach. -/
def inlineEntries : Nat → List Key → Value.Entries → List Char →
    Except Failure (Value.Entries × List Char)
  | 0, _, _, _ => malformed
  | fuel + 1, closed, table, cs => do
    let (k, v, r) ← keyValue fuel cs
    if closed.any (·.isPrefixOf k) then malformed
    else
      match changeAt false (addNew (k.getLast?.getD "") v) k.dropLast table with
      | none => malformed
      | some table =>
        match skipBlank r with
        | '\x7d' :: r => return (table, r)
        | ',' :: r => inlineEntries fuel (if isCollection v then k :: closed else closed) table (skipBlank r)
        | _ => malformed

def keyValue : Nat → List Char → Except Failure (Key × Value × List Char)
  | 0, _ => malformed
  | fuel + 1, cs => do
    let (k, r) ← key (cs.length + 1) cs
    match r with
    | '=' :: r =>
      let (v, r) ← value fuel (skipBlank r)
      return (k, v, r)
    | _ => malformed

end

/-! ## Documents -/

/-- The tables so far, the table that is open, and what may not be opened again: tables with a
header of their own, tables that dotted keys made under the open header, and inline collections. -/
structure Draft where
  table : Value.Entries
  header : Key
  declared : List Key
  dotted : List Key
  closed : List Key

namespace Draft

def start : Draft := ⟨[], [], [], [], []⟩

def isClosed (d : Draft) (k : Key) : Bool := d.closed.any (·.isPrefixOf k)

def isDeclared (d : Draft) (k : Key) : Bool := d.declared.contains k

/-- From a new header on, the tables of dotted keys count as declared. -/
def settle (d : Draft) : Draft := { d with declared := d.dotted ++ d.declared, dotted := [] }

def openTable (k : Key) (d : Draft) : Except Failure Draft :=
  if d.isDeclared k || d.isClosed k then malformed
  else match changeAt true some k d.table with
    | none => malformed
    | some table => .ok { d with table, header := k, declared := k :: d.declared }

/-- Opens a new table at the end of a list; what was said about tables below the list is over. -/
def openListItem (k : Key) (d : Draft) : Except Failure Draft :=
  if d.isClosed k then malformed
  else
    let free := fun (other : Key) => !k.isPrefixOf other
    match changeAt true (addToList (k.getLast?.getD "")) k.dropLast d.table with
    | none => malformed
    | some table => .ok { d with
        table, header := k, declared := k :: d.declared.filter free, closed := d.closed.filter free }

def store (k : Key) (v : Value) (d : Draft) : Except Failure Draft :=
  let ways := (List.range (k.length - 1)).map fun i => d.header ++ k.take (i + 1)
  let home := d.header ++ k.dropLast
  if ways.any d.isDeclared || d.isClosed home then malformed
  else match changeAt true (addNew (k.getLast?.getD "") v) home d.table with
    | none => malformed
    | some table => .ok { d with
        table, dotted := ways ++ d.dotted,
        closed := if isCollection v then (d.header ++ k) :: d.closed else d.closed }

end Draft

def statement (d : Draft) (cs : List Char) : Except Failure (Draft × List Char) :=
  match cs with
  | '[' :: '[' :: r => do
    let (k, r) ← key (r.length + 1) (skipBlank r)
    let d ← d.settle.openListItem k
    match r with
    | ']' :: ']' :: r => return (d, r)
    | _ => malformed
  | '[' :: r => do
    let (k, r) ← key (r.length + 1) (skipBlank r)
    let d ← d.settle.openTable k
    match r with
    | ']' :: r => return (d, r)
    | _ => malformed
  | cs => do
    let (k, v, r) ← keyValue (2 * cs.length + 2) cs
    return (← d.store k v, r)

def lines : Nat → Draft → List Char → Except Failure Draft
  | 0, _, _ => malformed
  | fuel + 1, d, cs =>
    match skipBlank cs with
    | [] => .ok d
    | '\n' :: r => lines fuel d r
    | c :: r => do
      let (d, r) ← if c = '#' then .ok (d, c :: r) else statement d (c :: r)
      match ← skipComment (skipBlank r) with
      | [] => return d
      | '\n' :: r => lines fuel d r
      | _ => malformed

def joinNewlines : List Char → List Char
  | '\r' :: '\n' :: r => '\n' :: joinNewlines r
  | c :: r => c :: joinNewlines r
  | [] => []

def parse (text : List Char) : Except Failure Value.Entries :=
  (lines (text.length + 2) .start (joinNewlines text)).map (·.table)

end ClientCompiler.Toml
