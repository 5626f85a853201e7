import ClientCompiler.Proofs.Returning

/-!
Two computations side by side. They are alike when they end in the same way and their logs are
related; a relation that holds of logs put together if it holds of their parts goes through every
step of a computation.
-/

namespace ClientCompiler

/-- A relation of logs that is kept when logs are put one after the other. -/
structure Joins (r : List Diagnostic → List Diagnostic → Prop) : Prop where
  nil : r [] []
  append : ∀ {l l' m m'}, r l m → r l' m' → r (l ++ l') (m ++ m')

/-- The second log may leave out records of the first, provided that `p` holds. -/
theorem joins_sublist (p : Prop) : Joins fun l m => p → m.Sublist l :=
  ⟨fun _ => .slnil, fun h h' hp => (h hp).append (h' hp)⟩

/-- The second log holds the records of the first that are kept, and only these. -/
theorem joins_filter (keep : Diagnostic → Bool) : Joins fun l m => m = l.filter keep :=
  ⟨rfl, fun h h' => by rw [h, h', List.filter_append]⟩

namespace Traced

variable {α β γ : Type} {r : List Diagnostic → List Diagnostic → Prop}

structure Alike (r : List Diagnostic → List Diagnostic → Prop) (x y : Traced α) : Prop where
  result : x.result = y.result
  log : r x.log y.log

theorem Alike.of_returned {a : α} {l : List Diagnostic} {y : Traced α}
    (h : Alike r ⟨.ok a, l⟩ y) : ∃ m, y = ⟨.ok a, m⟩ ∧ r l m := by
  obtain ⟨result, m⟩ := y
  obtain ⟨hresult, hlog⟩ := h
  obtain rfl : .ok a = result := hresult
  exact ⟨m, rfl, hlog⟩

theorem Alike.pure (hr : Joins r) (a : α) : Alike r (pure a) (pure a) :=
  ⟨rfl, hr.nil⟩

theorem Alike.lift (hr : Joins r) (x : Except Fault α) : Alike r (lift x) (lift x) :=
  ⟨rfl, hr.nil⟩

theorem Alike.bind (hr : Joins r) {x y : Traced α} {f g : α → Traced β} (h : Alike r x y)
    (hf : ∀ a, x.result = .ok a → Alike r (f a) (g a)) : Alike r (x.bind f) (y.bind g) := by
  obtain ⟨result, l⟩ := x
  obtain ⟨result', m⟩ := y
  obtain ⟨hresult, hlog⟩ := h
  obtain rfl : result = result' := hresult
  cases result with
  | error e => exact ⟨rfl, hlog⟩
  | ok a =>
    have hrest := hf a rfl
    exact ⟨hrest.result, hr.append hlog hrest.log⟩

theorem Alike.each (hr : Joins r) {f g : α → Traced β} {as : List α}
    (h : ∀ a ∈ as, Alike r (f a) (g a)) : Alike r (each f as) (each g as) := by
  induction as with
  | nil => exact Alike.pure hr []
  | cons a as ih =>
    obtain ⟨ha, has⟩ := List.forall_mem_cons.mp h
    exact ha.bind hr fun b _ => (ih has).bind hr fun bs _ => Alike.pure hr (b :: bs)

end Traced
end ClientCompiler
