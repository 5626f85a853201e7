import ClientCompiler.Template.Program

/-!
A test for the program of a template. It answers with a proof that two programs are the same, or not
at all; what the packaged templates have no use for never passes it.
-/

namespace ClientCompiler.Template

/-- A proof that two terms are the same, if one was found. -/
abbrev Agreement {α : Type} (a b : α) : Type := Option (PLift (a = b))

section

variable {α β : Type}

def agree? [DecidableEq α] (a b : α) : Agreement a b := if h : a = b then some ⟨h⟩ else none

def making (a : α) : Agreement a a := some ⟨rfl⟩

def Agreement.on {f g : α → β} {a b : α} (hf : Agreement f g) (h : Agreement a b) :
    Agreement (f a) (g b) :=
  hf.bind fun ⟨hf⟩ => h.map fun ⟨h⟩ => ⟨congr hf h⟩

end

mutual

def Datum.agree? : (a b : Datum) → Agreement a b
  | .text s, .text t => (making Datum.text).on (Template.agree? s t)
  | .int i, .int j => (making Datum.int).on (Template.agree? i j)
  | .tuple xs, .tuple ys => (making Datum.tuple).on (agreeData? xs ys)
  | _, _ => none

def agreeData? : (xs ys : List Datum) → Agreement xs ys
  | [], [] => making []
  | x :: xs, y :: ys => ((making List.cons).on (x.agree? y)).on (agreeData? xs ys)
  | _, _ => none

end

mutual

def Expr.agree? : (a b : Expr) → Agreement a b
  | .const d, .const e => (making Expr.const).on (d.agree? e)
  | .name m, .name n => (making Expr.name).on (Template.agree? m n)
  | .access a m, .access b n => ((making Expr.access).on (a.agree? b)).on (Template.agree? m n)
  | .item a i, .item b j => ((making Expr.item).on (a.agree? b)).on (i.agree? j)
  | .filter m a xs ps, .filter n b ys qs =>
    ((((making Expr.filter).on (Template.agree? m n)).on (a.agree? b)).on (agreeExprs? xs ys)).on
      (agreeNamed? ps qs)
  | .negation a, .negation b => (making Expr.negation).on (a.agree? b)
  | .compare a xs, .compare b ys => ((making Expr.compare).on (a.agree? b)).on (agreeCompared? xs ys)
  | _, _ => none

def agreeExprs? : (xs ys : List Expr) → Agreement xs ys
  | [], [] => making []
  | x :: xs, y :: ys => ((making List.cons).on (x.agree? y)).on (agreeExprs? xs ys)
  | _, _ => none

def agreeNamed? : (xs ys : List (String × Expr)) → Agreement xs ys
  | [], [] => making []
  | (m, x) :: xs, (n, y) :: ys =>
    ((making List.cons).on (((making Prod.mk).on (Template.agree? m n)).on (x.agree? y))).on
      (agreeNamed? xs ys)
  | _, _ => none

def agreeCompared? : (xs ys : List (Comparison × Expr)) → Agreement xs ys
  | [], [] => making []
  | (c, x) :: xs, (d, y) :: ys =>
    ((making List.cons).on (((making Prod.mk).on (Template.agree? c d)).on (x.agree? y))).on
      (agreeCompared? xs ys)
  | _, _ => none

end

def Target.agree? : (a b : Target) → Agreement a b
  | .name m, .name n => (making Target.name).on (Template.agree? m n)
  | _, _ => none

def Scope.agree? (a b : Scope) : Agreement a b :=
  ((making Scope.mk).on (Template.agree? a.origins b.origins)).on (Template.agree? a.stored b.stored)

def LoopScopes.agree? (a b : LoopScopes) : Agreement a b :=
  (((making LoopScopes.mk).on (a.test.agree? b.test)).on (a.body.agree? b.body)).on
    (a.otherwise.agree? b.otherwise)

mutual

/-- Loops with a test of their items do not pass. -/
def Node.agree? : (a b : Node) → Agreement a b
  | .text s, .text t => (making Node.text).on (Template.agree? s t)
  | .output a, .output b => (making Node.output).on (a.agree? b)
  | .assign t a, .assign u b => ((making Node.assign).on (t.agree? u)).on (a.agree? b)
  | .branch c xs ys, .branch d us vs =>
    (((making Node.branch).on (c.agree? d)).on (agreeNodes? xs us)).on (agreeNodes? ys vs)
  | .loop t a none xs ys s, .loop u b none us vs r =>
    ((((((making Node.loop).on (t.agree? u)).on (a.agree? b)).on (making none)).on
      (agreeNodes? xs us)).on (agreeNodes? ys vs)).on (s.agree? r)
  | _, _ => none

def agreeNodes? : (xs ys : List Node) → Agreement xs ys
  | [], [] => making []
  | x :: xs, y :: ys => ((making List.cons).on (x.agree? y)).on (agreeNodes? xs ys)
  | _, _ => none

end

def Program.agree? (a b : Program) : Agreement a b :=
  ((making Program.mk).on (a.scope.agree? b.scope)).on (agreeNodes? a.nodes b.nodes)

def isReadAs (text : List Char) (p : Program) : Bool :=
  match parse text with
  | .ok q => (q.agree? p).isSome
  | .error _ => false

theorem parse_of_isReadAs {text : List Char} {p : Program} (h : isReadAs text p = true) :
    parse text = .ok p := by
  unfold isReadAs at h
  split at h
  · next q hq =>
    obtain ⟨⟨heq⟩, -⟩ := Option.isSome_iff_exists.mp h
    rw [hq, heq]
  · cases h

end ClientCompiler.Template
