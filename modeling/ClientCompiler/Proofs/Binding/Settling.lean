import ClientCompiler.Binding.Session

/-!
What a run of bindings does to a table of types. A binding writes to its own slot only, so that
bindings settle one after the other, each as if the slots after it were not there.
-/

namespace ClientCompiler

/-- An action that defers nothing and succeeds. -/
structure Deferred.Plain {α : Type} (d : Deferred α) : Prop where
  next : d.next = []
  succeeds : d.fails = false

namespace BindingQueue

variable {α : Type}

theorem length_le_sizeAll (ds : List (Deferred α)) : ds.length ≤ Deferred.sizeAll ds := by
  induction ds with
  | nil => exact Nat.zero_le _
  | cons d ds ih =>
    have hd : 1 ≤ d.size := by
      cases d
      simp only [Deferred.size]
      omega
    simp only [List.length_cons, Deferred.sizeAll]
    omega

theorem runPending_plain (fuel : Nat) (ds : List (Deferred α)) (h : ∀ d ∈ ds, d.Plain)
    (hfuel : ds.length < fuel) : runPending fuel ⟨ds, false⟩ = ⟨ds, ⟨[], true⟩, false⟩ := by
  induction ds generalizing fuel with
  | nil =>
    obtain ⟨fuel, rfl⟩ := Nat.exists_eq_succ_of_ne_zero (Nat.ne_of_gt hfuel)
    rfl
  | cons d ds ih =>
    obtain ⟨fuel, rfl⟩ := Nat.exists_eq_succ_of_ne_zero (Nat.ne_of_gt (Nat.zero_lt_of_lt hfuel))
    have hd := h d List.mem_cons_self
    have hds := ih fuel (fun e he => h e (List.mem_cons_of_mem d he)) (Nat.lt_of_succ_lt_succ hfuel)
    rw [runPending_succeeds fuel d ds hd.succeeds, hd.next, List.append_nil, hds]

theorem drainRun_plain {ds : List (Deferred α)} (h : ∀ d ∈ ds, d.Plain) :
    drainRun ⟨ds, false⟩ = ⟨ds, ⟨[], true⟩, false⟩ :=
  runPending_plain _ ds h (Nat.lt_succ_of_le (length_le_sizeAll ds))

end BindingQueue

/-- The context of a property is never empty, so that it is always told. -/
theorem isEmpty_context (owner property : String) :
    (owner ++ "." ++ property).isEmpty = false := by
  rw [← Bool.not_eq_true, String.isEmpty_iff, String.append_eq_empty_iff,
    String.append_eq_empty_iff]
  intro h
  exact absurd h.1.2 (by decide)

theorem unresolvedMessage_context (name owner property : String) :
    Diagnostic.unresolvedMessage name (some (owner ++ "." ++ property)) =
      s!"{name} not found (referenced from {owner}.{property})" := by
  unfold Diagnostic.unresolvedMessage
  dsimp only
  rw [isEmpty_context, if_neg Bool.false_ne_true]
  simp only [String.append_assoc, toString]

section Bindings

variable (registry types : List String)

theorem PropertyBinding.length_run (b : PropertyBinding) :
    (b.run registry types).1.length = types.length := by
  unfold PropertyBinding.run
  split
  · exact List.length_set
  · rfl

theorem PropertyBinding.run_extend (b : PropertyBinding) (h : b.slot < types.length)
    (us : List String) :
    b.run registry (types ++ us) =
      ((b.run registry types).1 ++ us, (b.run registry types).2) := by
  unfold PropertyBinding.run
  split
  · rw [List.set_append_left _ _ h]
  · rfl

theorem PropertyBinding.run_last (owner name : String) (target : TypeNode) :
    PropertyBinding.run registry (types ++ ["any"]) ⟨types.length, owner, name, target⟩ =
      if target.innermost.name ∈ registry then (types ++ [target.text], [])
      else (types ++ ["any"],
        [.unresolved target.innermost.name (some (owner ++ "." ++ name))]) := by
  simp only [PropertyBinding.run, PropertyBinding.wanted, PropertyBinding.unresolved,
    List.contains_iff_mem]
  split
  · rw [List.set_append_right _ _ (Nat.le_refl _), Nat.sub_self]
    rfl
  · rfl

theorem length_runBindings (bs : List PropertyBinding) :
    (runBindings registry types bs).1.length = types.length := by
  induction bs generalizing types with
  | nil => rfl
  | cons b bs ih => exact (ih _).trans (b.length_run registry types)

theorem runBindings_append (bs cs : List PropertyBinding) :
    runBindings registry types (bs ++ cs) =
      ((runBindings registry (runBindings registry types bs).1 cs).1,
        (runBindings registry types bs).2 ++
          (runBindings registry (runBindings registry types bs).1 cs).2) := by
  induction bs generalizing types with
  | nil => rfl
  | cons b bs ih =>
    simp only [List.cons_append, runBindings]
    rw [ih, List.append_assoc]

theorem runBindings_extend (bs : List PropertyBinding) (h : ∀ b ∈ bs, b.slot < types.length)
    (us : List String) :
    runBindings registry (types ++ us) bs =
      ((runBindings registry types bs).1 ++ us, (runBindings registry types bs).2) := by
  induction bs generalizing types with
  | nil => rfl
  | cons b bs ih =>
    have hb : b.slot < types.length := h b List.mem_cons_self
    have hbs : ∀ c ∈ bs, c.slot < (b.run registry types).1.length := by
      intro c hc
      rw [PropertyBinding.length_run]
      exact h c (List.mem_cons_of_mem b hc)
    simp only [runBindings]
    rw [b.run_extend registry types hb us]
    simp only [ih _ hbs]

end Bindings
end ClientCompiler
