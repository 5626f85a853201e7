import ClientCompiler.Traced
import Mathlib.Data.List.Perm.Basic

/-!
When a computation returns. Each step of it has returned, and the log of a traced computation is
the logs of its steps in order.
-/

namespace ClientCompiler

section Untraced

variable {ε α β : Type}

theorem bind_eq_ok {x : Except ε α} {f : α → Except ε β} {b : β} :
    x >>= f = .ok b ↔ ∃ a, x = .ok a ∧ f a = .ok b := by
  cases x <;> simp [bind, Except.bind]

theorem bind_eq_error {x : Except ε α} {f : α → Except ε β} {e : ε} :
    x >>= f = .error e ↔ x = .error e ∨ ∃ a, x = .ok a ∧ f a = .error e := by
  cases x <;> simp [bind, Except.bind]

theorem pure_eq_ok {a b : α} : (pure a : Except ε α) = .ok b ↔ a = b := by
  simp [pure, Except.pure]

theorem throw_eq_ok {e : Fault} {a : α} : (throw e : Except Fault α) = .ok a ↔ False := by
  simp [throw, throwThe, MonadExceptOf.throw]

theorem map_eq_ok {x : Except Fault α} {f : α → β} {b : β} :
    x.map f = .ok b ↔ ∃ a, x = .ok a ∧ f a = b := by
  cases x <;> simp [Except.map]

theorem toOption_eq_some {x : Except ε α} {a : α} : x.toOption = some a ↔ x = .ok a := by
  cases x <;> simp [Except.toOption]

theorem map_eq_error {x : Except ε α} {f : α → β} {e : ε} : x.map f = .error e ↔ x = .error e := by
  cases x <;> simp [Except.map]

theorem mapM_nil_eq_ok {f : α → Except Fault β} {bs : List β} :
    [].mapM f = .ok bs ↔ bs = [] := by
  simp [pure, Except.pure, eq_comm]

theorem mapM_cons_eq_ok {f : α → Except Fault β} {a : α} {as : List α} {bs : List β} :
    (a :: as).mapM f = .ok bs ↔
      ∃ b cs, f a = .ok b ∧ as.mapM f = .ok cs ∧ bs = b :: cs := by
  rw [List.mapM_cons]
  simp only [bind_eq_ok, pure_eq_ok]
  constructor
  · rintro ⟨b, hb, cs, hcs, rfl⟩
    exact ⟨b, cs, hb, hcs, rfl⟩
  · rintro ⟨b, cs, hb, hcs, rfl⟩
    exact ⟨b, hb, cs, hcs, rfl⟩

theorem mapM_eq_ok {f : α → Except Fault β} {as : List α} {bs : List β} :
    as.mapM f = .ok bs ↔ List.Forall₂ (fun a b => f a = .ok b) as bs := by
  induction as generalizing bs with
  | nil => rw [mapM_nil_eq_ok, List.forall₂_nil_left_iff]
  | cons a as ih =>
    rw [mapM_cons_eq_ok, List.forall₂_cons_left_iff]
    simp only [ih]

theorem exists_of_forall₂_of_mem {r : α → β → Prop} {as : List α} {bs : List β}
    (h : List.Forall₂ r as bs) {b : β} (hb : b ∈ bs) : ∃ a ∈ as, r a b := by
  induction h with
  | nil => cases hb
  | @cons a' b' as bs hr _ ih =>
    rcases List.mem_cons.mp hb with rfl | hb
    · exact ⟨a', List.mem_cons_self, hr⟩
    · obtain ⟨a, ha, hr⟩ := ih hb
      exact ⟨a, List.mem_cons_of_mem _ ha, hr⟩

theorem returns_bind {x : Except Fault α} {f : α → Except Fault β} (hx : ∃ a, x = .ok a)
    (hf : ∀ a, x = .ok a → ∃ b, f a = .ok b) : ∃ b, x >>= f = .ok b := by
  obtain ⟨a, ha⟩ := hx
  obtain ⟨b, hb⟩ := hf a ha
  exact ⟨b, bind_eq_ok.mpr ⟨a, ha, hb⟩⟩

theorem returns_mapM {f : α → Except Fault β} {as : List α} (h : ∀ a ∈ as, ∃ b, f a = .ok b) :
    ∃ bs, as.mapM f = .ok bs := by
  induction as with
  | nil => exact ⟨[], rfl⟩
  | cons a as ih =>
    obtain ⟨ha, has⟩ := List.forall_mem_cons.mp h
    obtain ⟨b, hb⟩ := ha
    obtain ⟨bs, hbs⟩ := ih has
    exact ⟨b :: bs, mapM_cons_eq_ok.mpr ⟨b, bs, hb, hbs, rfl⟩⟩

theorem getElem?_of_mapM {f : α → Except Fault β} {as : List α} {bs : List β}
    (h : as.mapM f = .ok bs) (i : Nat) : as[i]?.map f = bs[i]?.map .ok := by
  have hforall := mapM_eq_ok.mp h
  clear h
  induction hforall generalizing i with
  | nil => rfl
  | cons hab _ ih =>
    cases i with
    | zero => simpa using hab
    | succ i => simpa using ih i

theorem returned_at {f : α → Except Fault β} {as : List α} {bs : List β}
    (h : as.mapM f = .ok bs) {i : Nat} {a : α} (ha : as[i]? = some a) :
    ∃ b, bs[i]? = some b ∧ f a = .ok b := by
  have hplace := getElem?_of_mapM h i
  rw [ha, Option.map_some, eq_comm, Option.map_eq_some_iff] at hplace
  obtain ⟨b, hb, hf⟩ := hplace
  exact ⟨b, hb, hf.symm⟩

theorem returned_from {f : α → Except Fault β} {as : List α} {bs : List β}
    (h : as.mapM f = .ok bs) {i : Nat} {b : β} (hb : bs[i]? = some b) :
    ∃ a, as[i]? = some a ∧ f a = .ok b := by
  have hplace := getElem?_of_mapM h i
  rw [hb, Option.map_some, Option.map_eq_some_iff] at hplace
  exact hplace

/-- Whether all items return does not depend on their order, and neither do the results. -/
theorem mapM_perm {f : α → Except Fault β} {as as' : List α} {bs : List β} (h : as.Perm as')
    (hbs : as.mapM f = .ok bs) : ∃ bs', as'.mapM f = .ok bs' ∧ bs.Perm bs' := by
  obtain ⟨bs', hforall, hperm⟩ := List.perm_comp_forall₂ h.symm (mapM_eq_ok.mp hbs)
  exact ⟨bs', mapM_eq_ok.mpr hforall, hperm.symm⟩

end Untraced

deriving instance DecidableEq for Traced

namespace Traced

variable {α β : Type}

theorem bind_eq_returned {x : Traced α} {f : α → Traced β} {b : β} {log : List Diagnostic} :
    x.bind f = ⟨.ok b, log⟩ ↔
      ∃ a l m, x = ⟨.ok a, l⟩ ∧ f a = ⟨.ok b, m⟩ ∧ log = l ++ m := by
  obtain ⟨r, l⟩ := x
  cases r with
  | error e => simp [bind]
  | ok a =>
    simp only [bind, mk.injEq, Except.ok.injEq]
    constructor
    · rintro ⟨hb, rfl⟩
      exact ⟨a, l, (f a).log, ⟨rfl, rfl⟩, by rw [← hb], rfl⟩
    · rintro ⟨_, _, m, ⟨rfl, rfl⟩, hf, rfl⟩
      rw [hf]
      exact ⟨rfl, rfl⟩

theorem lift_ok_bind (a : α) (f : α → Traced β) : (lift (.ok a)).bind f = f a := rfl

theorem lift_eq_returned {x : Except Fault α} {a : α} {log : List Diagnostic} :
    lift x = ⟨.ok a, log⟩ ↔ x = .ok a ∧ log = [] := by
  simp [lift, eq_comm]

theorem pure_eq_returned {a b : α} {log : List Diagnostic} :
    pure a = ⟨.ok b, log⟩ ↔ a = b ∧ log = [] := by
  simp [pure, eq_comm]

theorem result_eq_ok {x : Traced α} {a : α} :
    x.result = .ok a ↔ ∃ log, x = ⟨.ok a, log⟩ := by
  constructor
  · intro h
    exact ⟨x.log, by rw [← h]⟩
  · rintro ⟨log, rfl⟩
    rfl

theorem result_bind (x : Traced α) (f : α → Traced β) :
    (x.bind f).result = x.result >>= fun a => (f a).result := by
  obtain ⟨r, l⟩ := x
  cases r <;> rfl

theorem result_bind_eq_ok {x : Traced α} {f : α → Traced β} {b : β} :
    (x.bind f).result = .ok b ↔ ∃ a, x.result = .ok a ∧ (f a).result = .ok b := by
  rw [result_bind, bind_eq_ok]

theorem result_each (f : α → Traced β) (as : List α) :
    (each f as).result = as.mapM fun a => (f a).result := by
  induction as with
  | nil => rfl
  | cons a as ih =>
    rw [each, result_bind, List.mapM_cons]
    simp only [result_bind, ih]
    rfl

theorem mem_log_bind {x : Traced α} {f : α → Traced β} {d : Diagnostic} :
    d ∈ (x.bind f).log ↔ d ∈ x.log ∨ ∃ a, x.result = .ok a ∧ d ∈ (f a).log := by
  obtain ⟨r, l⟩ := x
  cases r <;> simp [bind]

theorem log_bind {x : Traced α} {f : α → Traced β} {a : α} (h : x.result = .ok a) :
    (x.bind f).log = x.log ++ (f a).log := by
  rw [bind, h]

theorem log_each {f : α → Traced β} {as : List α} {bs : List β}
    (h : (each f as).result = .ok bs) : (each f as).log = as.flatMap fun a => (f a).log := by
  induction as generalizing bs with
  | nil => rfl
  | cons a as ih =>
    obtain ⟨b, hb, h⟩ := result_bind_eq_ok.mp h
    obtain ⟨cs, hcs, -⟩ := result_bind_eq_ok.mp h
    rw [each, log_bind hb, log_bind hcs, ih hcs, List.flatMap_cons, pure, List.append_nil]

theorem returns_bind {x : Traced α} {f : α → Traced β} (hx : ∃ a, x.result = .ok a)
    (hf : ∀ a, x.result = .ok a → ∃ b, (f a).result = .ok b) :
    ∃ b, (x.bind f).result = .ok b := by
  rw [result_bind]
  exact ClientCompiler.returns_bind hx hf

theorem returns_each {f : α → Traced β} {as : List α}
    (h : ∀ a ∈ as, ∃ b, (f a).result = .ok b) : ∃ bs, (each f as).result = .ok bs := by
  rw [result_each]
  exact returns_mapM h

theorem mem_log_each {f : α → Traced β} {as : List α} {d : Diagnostic}
    (h : d ∈ (each f as).log) : ∃ a ∈ as, d ∈ (f a).log := by
  induction as with
  | nil => cases h
  | cons a as ih =>
    rcases mem_log_bind.mp h with h | ⟨_, _, h⟩
    · exact ⟨a, List.mem_cons_self, h⟩
    · rcases mem_log_bind.mp h with h | ⟨_, _, h⟩
      · obtain ⟨b, hb, h⟩ := ih h
        exact ⟨b, List.mem_cons_of_mem a hb, h⟩
      · cases h

theorem each_map {γ : Type} (f : β → Traced γ) (g : α → β) (as : List α) :
    each f (as.map g) = each (fun a => f (g a)) as := by
  induction as with
  | nil => rfl
  | cons a as ih => rw [List.map_cons, each, each, ih]

theorem each_append (f : α → Traced β) (as bs : List α) :
    each f (as ++ bs) =
      (each f as).bind fun xs => (each f bs).bind fun ys => pure (xs ++ ys) := by
  induction as with
  | nil => simp [each]
  | cons a as ih => simp only [List.cons_append, each, ih, bind_assoc, pure_bind]

end Traced
end ClientCompiler
