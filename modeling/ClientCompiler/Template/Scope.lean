/-!
The names of a frame. A template, each turn of a loop and each captured block are frames; what a frame
stores is gone when it ends. Where a name gets its first meaning from is settled before anything is
written: a name that a frame reads first is looked up, and one that it stores first is not.
-/

namespace ClientCompiler.Template

/-- Where the first meaning of a name in a frame comes from: from what the template is given, from a
frame around it, from nowhere, or from the loop or block itself. -/
inductive Origin where
  | given
  | outer
  | missing
  | bound
  deriving DecidableEq, Repr

structure Scope where
  origins : List (String × Origin)
  stored : List String
  deriving Repr, Inhabited

namespace Scope

def empty : Scope := ⟨[], []⟩

def names (s : Scope) : List String := s.origins.map Prod.fst

def has (s : Scope) (n : String) : Bool := (s.origins.lookup n).isSome

def set (n : String) (o : Origin) : List (String × Origin) → List (String × Origin)
  | [] => [(n, o)]
  | (m, p) :: r => if m = n then (n, o) :: r else (m, p) :: set n o r

/-- A name is read: if no frame knows it, it is given. -/
def load (outer : List String) (s : Scope) (n : String) : Scope :=
  if s.has n || outer.contains n then s else { s with origins := set n .given s.origins }

/-- A name is stored: if the frame does not know it yet, it starts as in the frames around, or
without a meaning. -/
def store (outer : List String) (s : Scope) (n : String) : Scope :=
  let origins := if s.has n then s.origins
    else set n (if outer.contains n then .outer else .missing) s.origins
  ⟨origins, n :: s.stored⟩

def bind (s : Scope) (n : String) : Scope := ⟨set n .bound s.origins, n :: s.stored⟩

/-- The scope after branches of which one is taken. A name that only they store starts as in the
frames around, or as it is given. -/
def join (outer : List String) (s : Scope) (branches : List Scope) : Scope :=
  let origins := (branches.flatMap Scope.origins).foldl (fun os (n, o) => set n o os) s.origins
  let newly := (branches.flatMap Scope.stored).filter fun n => !s.stored.contains n
  let start (n : String) : Origin := if outer.contains n then .outer else .given
  ⟨newly.foldl (fun os n => set n (start n) os) origins, newly ++ s.stored⟩

end Scope
end ClientCompiler.Template
