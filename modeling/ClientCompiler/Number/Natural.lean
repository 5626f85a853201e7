/-!
Totals of natural numbers.
-/

namespace ClientCompiler

def total : List Nat → Nat
  | [] => 0
  | n :: ns => n + total ns

end ClientCompiler
