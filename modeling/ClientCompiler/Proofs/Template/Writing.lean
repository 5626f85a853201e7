import ClientCompiler.Proofs.Returning
import ClientCompiler.Template.Render

/-!
Rules for what templates write. An expression means a datum and nodes write a text, each in the
frames that are open; what a whole template writes is put together from its nodes.
-/

namespace ClientCompiler.Template

def Means (s : Frames) (e : Expr) (d : Datum) : Prop := e.eval s.meaning = .ok d

/-- What nodes write in some frames, and the frames after them. -/
def Writes (s : Frames) (ns : List Node) (t : List Char) (s' : Frames) : Prop :=
  writeNodes s ns = .ok (t, s')

variable {s s' u : Frames} {e c : Expr} {d a : Datum} {n : String} {ns ms : List Node}
  {t t' : List Char}

/-! ## Names -/

theorem find?_frame (chance : Chance) (given : Names) (f : Frame) (fs : List Frame) (m : String) :
    (Frames.mk chance given (f :: fs)).find? m =
      match f.lookup m with
      | some o => o
      | none => (Frames.mk chance given fs).find? m := by
  unfold Frames.find?
  rw [List.findSome?_cons]
  cases f.lookup m <;> rfl

theorem lookup_cons_if {α : Type} (m n : String) (x : α) (l : List (String × α)) :
    ((n, x) :: l).lookup m = if m = n then some x else l.lookup m := by
  rw [List.lookup_cons]
  by_cases h : m = n
  · simp [h]
  · simp [h, beq_false_of_ne h]

theorem lookup_map {α β : Type} {f : String × α → String × β} (hf : ∀ p, (f p).1 = p.1)
    (l : List (String × α)) (m : String) :
    (l.map f).lookup m = (l.lookup m).map fun x => (f (m, x)).2 := by
  induction l with
  | nil => rfl
  | cons p l ih =>
    obtain ⟨n, x⟩ := p
    have hhead : f (n, x) = (n, (f (n, x)).2) := Prod.ext (hf (n, x)) rfl
    rw [List.map_cons, hhead, lookup_cons_if, lookup_cons_if, ih]
    by_cases hm : m = n
    · simp [hm]
    · simp [hm]

/-! ## Expressions -/

theorem means_name (h : s.find? n = some d) : Means s (.name n) d := by
  simp [Means, Expr.eval, Frames.meaning, Meaning.name, h]

theorem means_const (h : d.isSpelled = true) : Means s (.const d) d := by
  simp [Means, Frames.meaning, Meaning.const, h]

theorem Means.access (h : Means s e d) (ha : d.attributeNamed n = .ok a) :
    Means s (.access e n) a := by
  rw [Means, Expr.eval, h]
  exact ha

theorem Means.item {i : Datum} (h : Means s e d) (hi : i.isSpelled = true)
    (ha : d.item i = .ok a) : Means s (.item e (.const i)) a := by
  have hindex : Expr.eval s.meaning (.const i) = .ok i := means_const hi
  rw [Means] at h
  rw [Means, Expr.eval, h, hindex]
  · exact ha
  · intro first last step hspan
    cases hspan

theorem Means.negation (h : Means s e d) : Means s (.negation e) (.bool !d.truthy) := by
  rw [Means, Expr.eval, h]
  rfl

theorem Means.filter {args : List Expr} {named : List (String × Expr)} {ds : List Datum}
    {nds : List (String × Datum)} (h : Means s e d) (hargs : evalAll s.meaning args = .ok ds)
    (hnamed : evalNamed s.meaning named = .ok nds) (ha : d.filtered s.chance n ds nds = .ok a) :
    Means s (.filter n e args named) a := by
  rw [Means, Expr.eval, h, hargs, hnamed]
  exact ha

/-! ## Nodes -/

theorem writes_nil (s : Frames) : Writes s [] [] s := rfl

theorem Writes.of_eq (h : Writes s ns t s') (ht : t = t') : Writes s ns t' s' := ht ▸ h

theorem Writes.cons {m : Node} (h : Writes s [m] t u) (h' : Writes u ns t' s') :
    Writes s (m :: ns) (t ++ t') s' := by
  unfold Writes at h h'
  rw [writeNodes_singleton] at h
  rw [Writes, writeNodes, h]
  simp only [bind, Except.bind, h']
  rfl

theorem Writes.append (h : Writes s ns t u) (h' : Writes u ms t' s') :
    Writes s (ns ++ ms) (t ++ t') s' := by
  induction ns generalizing s t with
  | nil =>
    obtain ⟨rfl, rfl⟩ : [] = t ∧ s = u := by simpa [Writes, writeNodes] using h
    exact h'
  | cons m ns ih =>
    unfold Writes at h
    rw [writeNodes] at h
    obtain ⟨⟨first, v⟩, hfirst, h⟩ := bind_eq_ok.mp h
    obtain ⟨⟨rest, w⟩, hrest, h⟩ := bind_eq_ok.mp h
    obtain ⟨rfl, rfl⟩ := Prod.mk.inj (pure_eq_ok.mp h)
    have hfirst : Writes s [m] first v := (writeNodes_singleton s m).trans hfirst
    rw [List.append_assoc]
    exact hfirst.cons (ih hrest)

theorem writes_text (s : Frames) (x : List Char) : Writes s [.text x] x s := by
  rw [Writes, writeNodes_singleton, Node.write_text]

theorem writes_output (h : Means s e d) : Writes s [.output e] (d.render s.chance) s := by
  rw [Means] at h
  rw [Writes, writeNodes_singleton, Node.write, h]
  rfl

theorem writes_assign (h : Means s e d) :
    Writes s [.assign (.name n) e] [] (s.store [(n, d)]) := by
  rw [Means] at h
  rw [Writes, writeNodes_singleton, Node.write, h]
  rfl

theorem writes_branch (h : Means s c d) (hbranch : Writes s (if d.truthy then ns else ms) t s') :
    Writes s [.branch c ns ms] t s' := by
  rw [Means] at h
  rw [Writes, writeNodes_singleton, Node.write, h, ← hbranch]
  change (if d.truthy then writeNodes s ns else writeNodes s ms) = _
  rw [apply_ite (writeNodes s)]

/-! ## Templates -/

def outset (chance : Chance) (given : Names) (p : Program) : Frames :=
  (Frames.mk chance given []).enter p.scope []

theorem means_given {chance : Chance} {p : Program} {given : Names}
    (hn : p.scope.origins.lookup n = some .given) (h : given.lookup n = some d) :
    Means (outset chance given p) (.name n) d := by
  refine means_name ?_
  rw [outset, Frames.enter, find?_frame, lookup_map, hn]
  · simp [Frames.given?, h]
  · exact fun _ => rfl

theorem render_eq_ok {chance : Chance} {p : Program} {given : Names}
    (h : Writes (outset chance given p) p.nodes t s') : render chance p given = .ok t := by
  rw [Writes, outset] at h
  rw [render, h]
  rfl

/-! ## Loops -/

/-- The scope of the turns of a loop, in which some names are stored first. -/
def turnScope (n : String) (stored : List String) : Scope :=
  ⟨("loop", .bound) :: (n, .bound) :: stored.map fun m => (m, .missing),
    stored.reverse ++ [n, "loop"]⟩

def loopOver (n : String) (items : Expr) (body : List Node) (stored : List String) : Node :=
  .loop (.name n) items none body [] ⟨⟨[(n, .bound)], [n]⟩, turnScope n stored, .empty⟩

def Frames.turn (s : Frames) (n : String) (stored : List String) (i : Nat) (xs : List Datum)
    (x : Datum) : Frames := s.enter (turnScope n stored) [(n, x), ("loop", .turn i xs)]

/-- Names that a frame stores later are there without a meaning. -/
theorem lookup_missing (stored : List String) (m : String) :
    (stored.map fun n => (n, (none : Option Datum))).lookup m =
      if m ∈ stored then some none else none := by
  induction stored with
  | nil => rfl
  | cons n stored ih =>
    rw [List.map_cons, lookup_cons_if, ih]
    by_cases hm : m = n
    · simp [hm]
    · simp [hm]

theorem find?_turn (hn : n ≠ "loop") (stored : List String) (i : Nat) (xs : List Datum)
    (x : Datum) (m : String) :
    (s.turn n stored i xs x).find? m =
      if m = "loop" then some (.turn i xs) else if m = n then some x
      else if m ∈ stored then none else s.find? m := by
  have hown : [(n, x), ("loop", Datum.turn i xs)].lookup "loop" = some (.turn i xs) := by
    rw [lookup_cons_if, if_neg (Ne.symm hn), List.lookup_cons_self]
  have hframe : s.turn n stored i xs x = Frames.mk s.chance s.given ((("loop", some (.turn i xs)) ::
      (n, some x) :: stored.map fun m => (m, none)) :: s.stack) := by
    simp [Frames.turn, Frames.enter, turnScope, hown, Function.comp_def]
  rw [hframe, find?_frame, lookup_cons_if, lookup_cons_if, lookup_missing]
  by_cases hloop : m = "loop"
  · simp [hloop]
  · by_cases hm : m = n
    · simp [hm, hn]
    · by_cases hstored : m ∈ stored <;> simp [hloop, hm, hstored]

theorem find?_turn_self (hn : n ≠ "loop") (stored : List String) (i : Nat) (xs : List Datum)
    (x : Datum) : (s.turn n stored i xs x).find? n = some x := by
  rw [find?_turn hn, if_neg hn, if_pos rfl]

theorem stack_store (h : s.stack ≠ []) (data : Names) : (s.store data).stack ≠ [] := by
  obtain ⟨chance, given, stack⟩ := s
  obtain ⟨f, fs, rfl⟩ := List.exists_cons_of_ne_nil h
  exact List.cons_ne_nil _ _

theorem find?_store (h : s.stack ≠ []) (m : String) :
    (s.store [(n, d)]).find? m = if m = n then some d else s.find? m := by
  obtain ⟨chance, given, stack⟩ := s
  obtain ⟨f, fs, rfl⟩ := List.exists_cons_of_ne_nil h
  simp only [Frames.store, List.map_cons, List.map_nil, List.reverse_singleton,
    List.singleton_append]
  rw [find?_frame, find?_frame, lookup_cons_if]
  by_cases hm : m = n <;> simp [hm]

theorem writes_store (n : String) (hstack : s.stack ≠ []) (h : Means s e d) :
    ∃ s', Writes s [.assign (.name n) e] [] s' ∧ s'.stack ≠ [] ∧
      ∀ m, s'.find? m = if m = n then some d else s.find? m :=
  ⟨_, writes_assign h, stack_store hstack _, find?_store hstack⟩

/-- The induction is on the items, with the index of the first one. -/
theorem writeEach_eq_ok {α : Type} {f : Nat → Datum → Rendering (List Char)} {datum : α → Datum}
    {text : Nat → α → List Char} {xs : List α} {i : Nat}
    (h : ∀ j x, xs[j]? = some x → f (i + j) (datum x) = .ok (text j x)) :
    writeEach f i (xs.map datum) = .ok (xs.mapIdx text).flatten := by
  induction xs generalizing i text with
  | nil => rfl
  | cons x xs ih =>
    have hfirst : f i (datum x) = .ok (text 0 x) := h 0 x rfl
    have hrest : writeEach f (i + 1) (xs.map datum) =
        .ok (xs.mapIdx fun j => text (j + 1)).flatten := by
      refine ih fun j y hy => ?_
      rw [Nat.add_right_comm, Nat.add_assoc]
      exact h (j + 1) y (by simpa using hy)
    rw [List.map_cons, writeEach, hfirst, hrest]
    simp [bind, Except.bind, pure, Except.pure, List.mapIdx_cons]

theorem write_loopOver {items : Expr} {xs : List Datum} (hitems : Means s items (.list xs))
    (body : List Node) (stored : List String) :
    (loopOver n items body stored).write s =
      (writeEach (fun i x => (writeNodes (s.turn n stored i xs x) body).map Prod.fst) 0 xs).map
        fun t => (t, s) := by
  have hloop : loopItems s (.name n) items none ⟨[(n, .bound)], [n]⟩ = .ok (xs, .ok ()) := by
    rw [Means] at hitems
    simp [loopItems, hitems, Datum.items, bind, Except.bind, pure, Except.pure]
  rw [loopOver, Node.write, hloop]
  cases xs with
  | nil => rfl
  | cons x xs =>
    simp only [Target.take, bind, Except.bind, pure, Except.pure, Except.map, Frames.turn]
    rfl

theorem writes_loop {α : Type} {items : Expr} {datum : α → Datum} {xs : List α}
    (n : String) (body : List Node) (stored : List String) (text : Nat → α → List Char)
    (hitems : Means s items (.list (xs.map datum)))
    (hbody : ∀ i x, xs[i]? = some x →
      ∃ s', Writes (s.turn n stored i (xs.map datum) (datum x)) body (text i x) s') :
    Writes s [loopOver n items body stored] (xs.mapIdx text).flatten s := by
  have hturns : writeEach (fun i x =>
      (writeNodes (s.turn n stored i (xs.map datum) x) body).map Prod.fst) 0 (xs.map datum) =
        .ok (xs.mapIdx text).flatten := by
    refine writeEach_eq_ok fun i x hx => ?_
    obtain ⟨s', hwrites⟩ := hbody i x hx
    rw [Nat.zero_add, hwrites]
    rfl
  rw [Writes, writeNodes_singleton, write_loopOver hitems, hturns]
  rfl

theorem writes_each {α : Type} {items : Expr} {datum : α → Datum} {xs : List α}
    (n : String) (body : List Node) (stored : List String) (text : α → List Char)
    (hitems : Means s items (.list (xs.map datum)))
    (hbody : ∀ i x, ∃ s', Writes (s.turn n stored i (xs.map datum) (datum x)) body (text x) s') :
    Writes s [loopOver n items body stored] (xs.flatMap text) s := by
  have hmap (ys : List α) : ys.mapIdx (fun _ x => text x) = ys.map text := by
    induction ys with
    | nil => rfl
    | cons y ys ih => rw [List.mapIdx_cons, List.map_cons, ih]
  refine (writes_loop n body stored (fun _ x => text x) hitems fun i x _ => hbody i x).of_eq ?_
  rw [hmap, List.flatMap_def]

end ClientCompiler.Template
