import ClientCompiler.Fault

/-!
How computations fail. What every step can fail with, the whole computation can fail with, and
nothing else.
-/

namespace ClientCompiler

def FailsOnly {ε α : Type} (p : ε → Prop) (x : Except ε α) : Prop := ∀ e, x = .error e → p e

namespace FailsOnly

variable {ε α β : Type} {p q : ε → Prop} {x : Except ε α} {f : α → Except ε β}

theorem ok (a : α) : FailsOnly p (.ok a) := nofun

theorem error {e : ε} (h : p e) : FailsOnly p (.error e : Except ε α) := by
  rintro _ ⟨⟩
  exact h

theorem mono (hpq : ∀ e, p e → q e) (h : FailsOnly p x) : FailsOnly q x :=
  fun e he => hpq e (h e he)

theorem bind_of_ok (hx : FailsOnly p x) (hf : ∀ a, x = .ok a → FailsOnly p (f a)) :
    FailsOnly p (x >>= f) := by
  cases x with
  | error e => exact error (hx e rfl)
  | ok a => exact hf a rfl

theorem bind (hx : FailsOnly p x) (hf : ∀ a, FailsOnly p (f a)) : FailsOnly p (x >>= f) :=
  hx.bind_of_ok fun a _ => hf a

theorem map (hx : FailsOnly p x) (g : α → β) : FailsOnly p (x.map g) := by
  cases x with
  | error e => exact error (hx e rfl)
  | ok a => exact ok (g a)

end FailsOnly

end ClientCompiler
