import ClientCompiler.Template.Evaluation
import ClientCompiler.Template.Tree

/-!
A template that is ready to be written out: its constants are computed, its frames know their names,
and what can be told to be wrong before any name has a meaning has been refused. So has what the
language has besides the parts that are read here.
-/

namespace ClientCompiler.Template

/-! ## The names of frames -/

def Scope.loadAll (outer : List String) (s : Scope) (ns : List String) : Scope :=
  ns.foldl (Scope.load outer) s

def Target.store (outer : List String) (s : Scope) (t : Target) : Scope :=
  t.names.foldl (Scope.store outer) (s.loadAll outer t.owners)

mutual

/-- The scope of a frame after a node in it. What a loop or a captured block holds has frames of its
own. -/
def Node.enter (outer : List String) (s : Scope) : Node → Scope
  | .text _ => s
  | .output e => s.loadAll outer e.names
  | .loop _ items _ _ _ _ => s.loadAll outer items.names
  | .branch condition yes no =>
    let s := s.loadAll outer condition.names
    s.join outer [enterAll outer s yes, enterAll outer s no]
  | .assign t e => t.store outer (s.loadAll outer e.names)
  | .capture t _ _ _ => t.store outer s

def enterAll (outer : List String) (s : Scope) : List Node → Scope
  | [] => s
  | n :: ns => enterAll outer (n.enter outer s) ns

end

mutual

def Node.scoped (outer : List String) : Node → Node
  | .text s => .text s
  | .output e => .output e
  | .loop t items test body otherwise _ =>
    let turn := t.names.foldl Scope.bind Scope.empty
    let scopes : LoopScopes := ⟨turn.loadAll outer (namesOfOption test),
      enterAll outer (t.names.foldl Scope.bind (Scope.empty.bind "loop")) body,
      enterAll outer .empty otherwise⟩
    .loop t items test (scopedAll (scopes.body.names ++ outer) body)
      (scopedAll (scopes.otherwise.names ++ outer) otherwise) scopes
  | .branch condition yes no => .branch condition (scopedAll outer yes) (scopedAll outer no)
  | .assign t e => .assign t e
  | .capture t e body _ =>
    let scope := enterAll outer (Scope.empty.bind "") body
    .capture t e (scopedAll (scope.names ++ outer) body) scope

def scopedAll (outer : List String) : List Node → List Node
  | [] => []
  | n :: ns => n.scoped outer :: scopedAll outer ns

end

/-! ## Constants -/

mutual

/-- A node with its constants computed; one that is written out becomes text, unless that tells where
something lies. -/
def Node.simplified : Node → Node
  | .text s => .text s
  | .output e => match e.value? with
    | some d => if d.isPlaced then .output e.simplified else .text (d.render (.constant 0))
    | none => .output e.simplified
  | .loop t items test body otherwise scopes =>
    .loop t items.simplified (simplifiedOption test) (simplifiedNodes body)
      (simplifiedNodes otherwise) scopes
  | .branch condition yes no =>
    .branch condition.simplified (simplifiedNodes yes) (simplifiedNodes no)
  | .assign t e => .assign t e.simplified
  | .capture t e body scope => .capture t e.simplified (simplifiedNodes body) scope

def simplifiedNodes : List Node → List Node
  | [] => []
  | n :: ns => n.simplified :: simplifiedNodes ns

end

/-! ## Filters -/

mutual

/-- Whether every filter and test of an expression is known. In a choice it may be unknown. -/
def Expr.filtersKnown : Expr → Bool
  | .const _ => true
  | .name _ => true
  | .list es => exprsKnown es
  | .tuple es => exprsKnown es
  | .access e _ => e.filtersKnown
  | .item e i => e.filtersKnown && i.filtersKnown
  | .span a b c => optionKnown a && optionKnown b && optionKnown c
  | .filter n e args named =>
    filterNames.contains n && e.filtersKnown && exprsKnown args && namedKnown named
  | .test n e args named => isKnownTest n && e.filtersKnown && exprsKnown args && namedKnown named
  | .call e _ args named => e.filtersKnown && exprsKnown args && namedKnown named
  | .negative e => e.filtersKnown
  | .positive e => e.filtersKnown
  | .negation e => e.filtersKnown
  | .binary _ a b => a.filtersKnown && b.filtersKnown
  | .compare a rest => a.filtersKnown && comparedKnown rest
  | .choice .. => true

def exprsKnown : List Expr → Bool
  | [] => true
  | e :: es => e.filtersKnown && exprsKnown es

def namedKnown : List (String × Expr) → Bool
  | [] => true
  | (_, e) :: es => e.filtersKnown && namedKnown es

def comparedKnown : List (Comparison × Expr) → Bool
  | [] => true
  | (_, e) :: es => e.filtersKnown && comparedKnown es

def optionKnown : Option Expr → Bool
  | none => true
  | some e => e.filtersKnown

end

mutual

/-- Whether every filter is known that is sure to be reached. Inside a branch, up to the next frame,
an unknown one counts only when it is reached. -/
def Node.filtersKnown (inBranch : Bool) : Node → Bool
  | .text _ => true
  | .output e => inBranch || e.filtersKnown
  | .assign _ e => inBranch || e.filtersKnown
  | .branch _ yes no => nodesKnown true yes && nodesKnown true no
  | .loop _ items test body otherwise _ =>
    (inBranch || items.filtersKnown) && optionKnown test && nodesKnown false body &&
      nodesKnown false otherwise
  | .capture _ e body _ => e.filtersKnown && nodesKnown false body

def nodesKnown (inBranch : Bool) : List Node → Bool
  | [] => true
  | n :: ns => n.filtersKnown inBranch && nodesKnown inBranch ns

end

/-! ## The name of the loop -/

mutual

def Node.storedNames : Node → List String
  | .text _ => []
  | .output _ => []
  | .loop t _ _ body otherwise _ => t.names ++ storedNamesOf body ++ storedNamesOf otherwise
  | .branch _ yes no => storedNamesOf yes ++ storedNamesOf no
  | .assign t _ => t.names
  | .capture t _ body _ => t.names ++ storedNamesOf body

def storedNamesOf : List Node → List String
  | [] => []
  | n :: ns => n.storedNames ++ storedNamesOf ns

end

mutual

def Node.keepsLoop : Node → Bool
  | .text _ => true
  | .output _ => true
  | .loop t _ _ body otherwise _ =>
    !(t.names ++ storedNamesOf body ++ storedNamesOf otherwise).contains "loop"
  | .branch _ yes no => keepLoop yes && keepLoop no
  | .assign _ _ => true
  | .capture _ _ body _ => keepLoop body

def keepLoop : List Node → Bool
  | [] => true
  | n :: ns => n.keepsLoop && keepLoop ns

end

/-! ## Meaning -/

def areDistinct : List String → Bool
  | [] => true
  | n :: ns => !ns.contains n && areDistinct ns

mutual

/-- Whether an expression has a meaning: a span stands only as an index, and no argument is
named twice. -/
def Expr.isMeaningful : Expr → Bool
  | .const _ => true
  | .name _ => true
  | .list es => areMeaningful es
  | .tuple es => areMeaningful es
  | .access e _ => e.isMeaningful
  | .item e (.span a b c) =>
    e.isMeaningful && optionMeaningful a && optionMeaningful b && optionMeaningful c
  | .item e i => e.isMeaningful && i.isMeaningful
  | .span .. => false
  | .filter _ e args named =>
    e.isMeaningful && areMeaningful args && areDistinct (named.map Prod.fst) &&
      namedMeaningful named
  | .test _ e args named =>
    e.isMeaningful && areMeaningful args && areDistinct (named.map Prod.fst) &&
      namedMeaningful named
  | .call e _ args named =>
    e.isMeaningful && areMeaningful args && areDistinct (named.map Prod.fst) &&
      namedMeaningful named
  | .negative e => e.isMeaningful
  | .positive e => e.isMeaningful
  | .negation e => e.isMeaningful
  | .binary _ a b => a.isMeaningful && b.isMeaningful
  | .compare a rest => a.isMeaningful && comparedMeaningful rest
  | .choice c a b => c.isMeaningful && a.isMeaningful && optionMeaningful b

def areMeaningful : List Expr → Bool
  | [] => true
  | e :: es => e.isMeaningful && areMeaningful es

def namedMeaningful : List (String × Expr) → Bool
  | [] => true
  | (_, e) :: es => e.isMeaningful && namedMeaningful es

def comparedMeaningful : List (Comparison × Expr) → Bool
  | [] => true
  | (_, e) :: es => e.isMeaningful && comparedMeaningful es

def optionMeaningful : Option Expr → Bool
  | none => true
  | some e => e.isMeaningful

end

def deepestLoop : Nat := 20

mutual

def Node.isMeaningful (depth : Nat) : Node → Bool
  | .text _ => true
  | .output e => e.isMeaningful
  | .loop _ items test body otherwise _ =>
    depth < deepestLoop && items.isMeaningful && optionMeaningful test &&
      nodesMeaningful (depth + 1) body && nodesMeaningful depth otherwise
  | .branch c yes no => c.isMeaningful && nodesMeaningful depth yes && nodesMeaningful depth no
  | .assign _ e => e.isMeaningful
  | .capture _ e body _ => e.isMeaningful && nodesMeaningful depth body

def nodesMeaningful (depth : Nat) : List Node → Bool
  | [] => true
  | n :: ns => n.isMeaningful depth && nodesMeaningful depth ns

end

/-! ## Programs -/

/-- A template with the names of its outermost frame. -/
structure Program where
  scope : Scope
  nodes : List Node
  deriving Repr, Inhabited

/-- The first number without a value among some pieces. -/
def misreadIn? (ps : List Piece) : Option RenderFault :=
  ps.findSome? fun p => match p with
    | .text _ => none
    | .output ts => ts.findSome? fault?
    | .statement ts => ts.findSome? fault?
where
  fault? : Token → Option RenderFault
    | .misread f => some f
    | _ => none

/-- Nodes with their frames and constants, if they can be written out at all. -/
def Program.ofNodes (ns : List Node) : Rendering Program :=
  let scope := enterAll [] .empty ns
  let ns := simplifiedNodes (scopedAll scope.names ns)
  if !nodesKnown false ns || !keepLoop ns then ofTemplate
  else if !nodesMeaningful 0 ns then .error .meaningless
  else .ok ⟨scope, ns⟩

def parse (text : List Char) : Rendering Program :=
  match piecesOf? text with
  | none => ofTemplate
  | some ps =>
    match Node.ofPieces? ps with
    | none => ofTemplate
    | some ns =>
      match misreadIn? ps with
      | some f => .error f
      | none => Program.ofNodes ns

end ClientCompiler.Template
