import ClientCompiler.Proofs.Distinct
import ClientCompiler.Proofs.Json.Pieces
import ClientCompiler.Proofs.Json.RoundTrip
import Mathlib.Data.List.Induction

/-!
Every text of the syntax is accepted. Reading a tree gives its value, and what follows the tree is
left, unless the reader comes to an integer that is too long; pairs with repeated names are settled
as the syntax says.
-/

namespace ClientCompiler

namespace Value

variable {name : String} {l : List String} {f : String → Value}

/-! ## Repeated names -/

theorem field_map_str (h : name ∉ l) : field name (l.map fun m => (.str m, f m)) = none := by
  induction l with
  | nil => rfl
  | cons m l ih =>
    rw [List.mem_cons, not_or] at h
    rw [List.map_cons, field_cons_ne (Ne.symm h.1), ih h.2]

theorem hasDistinctNames_map_str (h : l.Nodup) :
    hasDistinctNames (l.map fun m => (.str m, f m)) = true := by
  induction l with
  | nil => rfl
  | cons m l ih =>
    rw [List.nodup_cons] at h
    rw [List.map_cons, hasDistinctNames, field_map_str h.1, ih h.2]
    rfl

theorem insert_map_str (h : l.Nodup) (v : Value) :
    insert (.str name) v (l.map fun m => (.str m, f m)) =
      (if name ∈ l then l else l ++ [name]).map fun m => (.str m, if m = name then v else f m) := by
  induction l with
  | nil => simp [insert]
  | cons m l ih =>
    rw [List.nodup_cons] at h
    rw [List.map_cons, insert, same_str_eq_isNamed]
    by_cases hm : m = name
    · subst hm
      have hkeep : ∀ n ∈ l, (Value.str n, f n) = (.str n, if n = m then v else f n) := by
        intro n hn
        have hne : n ≠ m := fun heq => h.1 (heq ▸ hn)
        rw [if_neg hne]
      simp [isNamed, List.map_congr_left hkeep]
    · have hother : name ≠ m := Ne.symm hm
      rw [if_neg (by simpa [isNamed] using hm), ih h.2]
      by_cases hmem : name ∈ l <;> simp [hmem, hm, hother]

end Value

namespace Json

theorem lastUnder_append (m name : String) (pairs : List (String × Value)) (v : Value) :
    lastUnder m (pairs ++ [(name, v)]) = if m = name then v else lastUnder m pairs := by
  rw [lastUnder, List.reverse_append, List.reverse_singleton, List.singleton_append,
    List.lookup_cons]
  by_cases hm : m = name
  · simp [hm]
  · rw [beq_false_of_ne hm, if_neg hm, lastUnder]

theorem settle_append (pairs : List (String × Value)) (name : String) (v : Value) :
    settle (pairs ++ [(name, v)]) = Value.insert (.str name) v (settle pairs) := by
  have hnames : ((pairs ++ [(name, v)]).map Prod.fst).eraseDups =
      if name ∈ (pairs.map Prod.fst).eraseDups then (pairs.map Prod.fst).eraseDups
      else (pairs.map Prod.fst).eraseDups ++ [name] := by
    rw [List.map_append, List.eraseDups_append]
    by_cases hmem : name ∈ pairs.map Prod.fst
    · rw [if_pos (List.mem_eraseDups.mpr hmem)]
      simp [List.removeAll, hmem]
    · rw [if_neg (mt List.mem_eraseDups.mp hmem)]
      simp [List.removeAll, hmem, List.eraseDups_cons]
  simp only [settle, Value.insert_map_str (nodup_eraseDups _), hnames, lastUnder_append]

/-- The entries that pairs are read as, before repeated names are settled. -/
def entriesOf (pairs : List (String × Value)) : Value.Entries := pairs.map fun p => (.str p.1, p.2)

/-- Pairs that are stored one after the other keep the first place and the last value of a name. -/
theorem ofPairs_eq_settle (pairs : List (String × Value)) :
    Value.ofPairs (entriesOf pairs) = settle pairs := by
  induction pairs using List.reverseRecOn with
  | nil => rfl
  | append_singleton pairs p ih =>
    rw [settle_append, ← ih, Value.ofPairs, entriesOf, List.map_append, List.foldl_append]
    rfl

variable {cs rest : List Char} {c : Char}

/-! ## Blanks -/

theorem isSpace_iff : isSpace c = true ↔ c ∈ [' ', '\t', '\n', '\r'] := by
  simp [isSpace, or_assoc]

def blanks (cs : List Char) : Space :=
  ⟨cs.takeWhile isSpace, fun _ hc => isSpace_iff.mp (List.mem_takeWhile_imp hc)⟩

theorem blanks_append_skipSpace (cs : List Char) : (blanks cs).val ++ skipSpace cs = cs :=
  List.takeWhile_append_dropWhile

theorem skipSpace_space (gap : Space) (cs : List Char) :
    skipSpace (gap.val ++ cs) = skipSpace cs :=
  List.dropWhile_append_of_pos fun c hc => isSpace_iff.mpr (gap.property c hc)

theorem ends_space (gap : Space) (h : Ends cs) : Ends (gap.val ++ cs) := by
  obtain ⟨gap, hgap⟩ := gap
  cases gap with
  | nil => exact h
  | cons c gap =>
    refine ends_cons.mpr ?_
    have hc := hgap c List.mem_cons_self
    simp only [List.mem_cons, List.not_mem_nil, or_false] at hc
    rcases hc with rfl | rfl | rfl | rfl <;> decide

/-! ## First characters -/

theorem Word.opens (w : Word) : Opens w.text := by
  cases w <;> exact ⟨_, _, rfl, by decide⟩

theorem Numeral.opens (n : Numeral) : Opens n.text := by
  have h := opens_of_startsNumber (startsNumber_text n [])
  rwa [List.append_nil] at h

theorem Tree.opens (t : Tree) : Opens t.text := by
  cases t with
  | word w => exact w.opens
  | numeral n => exact n.opens
  | _ => exact ⟨_, _, rfl, by decide⟩

theorem Items.opens (items : Items) : Opens items.text := by
  cases items <;> exact (Tree.opens _).append _

theorem Members.opens (members : Members) : ∃ cs, members.text = '"' :: cs := by
  cases members <;> exact ⟨_, rfl⟩

/-! ## Every tree is read -/

/-- The reader gives the value, or it comes to an integer that is too long. -/
def Yields {α : Type} (r : Reading α) (a : α) (rest : List Char) : Prop :=
  r = .error .integerTooLong ∨ r = .ok (a, rest)

theorem value_word (w : Word) (fuel : Nat) :
    value (fuel + 1) (w.text ++ rest) = .ok (w.value, rest) := by
  cases w <;> rfl

theorem yields_numeral (n : Numeral) (hrest : Ends rest) (fuel : Nat) :
    Yields (value (fuel + 1) (n.text ++ rest)) n.value rest := by
  rw [value_of_startsNumber (startsNumber_text n rest), number_text n hrest]
  split
  · exact .inl rfl
  · exact .inr rfl

theorem yields_string (ps : List Piece) (fuel : Nat) :
    Yields (value (fuel + 1) ('"' :: (stringTail ps ++ rest))) (.str (stringOf ps)) rest := by
  refine .inr ?_
  rw [value, stringBody_text]
  rfl

theorem ends_after (after : Space) {c : Char} (hc : c = ',' ∨ c = ']' ∨ c = '\x7d')
    (rest : List Char) : Ends (after.val ++ c :: rest) := by
  refine ends_space after (ends_cons.mpr ?_)
  rcases hc with rfl | rfl | rfl <;> decide

/-! ### Rows of items and of members -/

section Rows

variable {α : Type} {fuel : Nat} {close : Char} {f : Value → α}
  {more : List Char → Reading (List α)}

/-- A value with what is made of it, and more of the kind up to a closing sign. -/
def row (fuel : Nat) (close : Char) (f : Value → α) (more : List Char → Reading (List α))
    (cs : List Char) : Reading (List α) :=
  (value fuel cs).bind fun (v, r) =>
    match skipSpace r with
    | [] => refuse .comma []
    | c :: r =>
      if c = close then .ok ([f v], r)
      else if c = ',' then (more (skipSpace r)).map fun (as, rest) => (f v :: as, rest)
      else refuse .comma (c :: r)

theorem elements_succ (fuel : Nat) (cs : List Char) :
    elements (fuel + 1) cs = row fuel ']' id (elements fuel) cs := by
  rw [elements, row]
  cases value fuel cs with
  | error e => rfl
  | ok x =>
    simp only [bind, Except.bind]
    cases hnext : skipSpace x.2 with
    | nil => rfl
    | cons c r =>
      by_cases hclose : c = ']'
      · subst hclose
        rfl
      by_cases hcomma : c = ','
      · subst hcomma
        cases hmore : elements fuel (skipSpace r) <;> simp [hmore, Except.map, pure, Except.pure]
      · simp [hclose, hcomma]

theorem members_key (k : Key) (h : skipSpace cs = cs) (fuel : Nat) :
    members (fuel + 1) (k.text ++ cs) =
      row fuel '\x7d' (Prod.mk (.str (stringOf k.name))) (members fuel) cs := by
  rw [Key.text, List.cons_append, List.append_assoc, List.append_assoc, members, stringBody_text]
  simp only [List.cons_append, bind, Except.bind, skipSpace_space, h, row,
    skipSpace_of_not (c := ':') rfl]
  cases value fuel cs with
  | error e => rfl
  | ok x =>
    cases hnext : skipSpace x.2 with
    | nil => simp [hnext]
    | cons c r =>
      by_cases hclose : c = '\x7d'
      · subst hclose
        simp [hnext, pure, Except.pure]
      by_cases hcomma : c = ','
      · subst hcomma
        cases hmore : members fuel (skipSpace r) <;>
          simp [hnext, hmore, Except.map, pure, Except.pure]
      · simp [hnext, hclose, hcomma]

section Yields

variable {t : Tree} (after : Space) (hclose : close = ']' ∨ close = '\x7d')
  (ht : ∀ {rest : List Char}, Ends rest → Yields (value fuel (t.text ++ rest)) t.value rest)

include hclose ht

theorem yields_last :
    Yields (row fuel close f more (t.text ++ (after.val ++ close :: rest))) [f t.value] rest := by
  have hspace : isSpace close = false := by rcases hclose with rfl | rfl <;> rfl
  rcases ht (ends_after after (.inr hclose) rest) with h | h <;> rw [row, h]
  · exact .inl rfl
  · refine .inr ?_
    simp only [Except.bind, skipSpace_space, skipSpace_of_not hspace, if_true]

theorem yields_next (gap : Space) (hcs : skipSpace cs = cs) {as : List α}
    (hmore : Yields (more cs) as rest) :
    Yields (row fuel close f more (t.text ++ (after.val ++ ',' :: (gap.val ++ cs))))
      (f t.value :: as) rest := by
  have hcomma : ',' ≠ close := by rcases hclose with rfl | rfl <;> decide
  rcases ht (ends_after after (.inl rfl) (gap.val ++ cs)) with h | h <;> rw [row, h]
  · exact .inl rfl
  · simp only [Except.bind, skipSpace_space, skipSpace_of_not (c := ',') rfl, if_neg hcomma,
      if_true, hcs]
    rcases hmore with h | h <;> rw [h]
    · exact .inl rfl
    · exact .inr rfl

end Yields

end Rows

theorem Yields.map {α β : Type} {r : Reading α} {a : α} (h : Yields r a rest) (f : α → β) :
    Yields (r.map fun (x, rest) => (f x, rest)) (f a) rest := by
  rcases h with h | h <;> rw [h]
  · exact .inl rfl
  · exact .inr rfl

theorem value_brackets (gap : Space) (fuel : Nat) :
    value (fuel + 1) ('[' :: (gap.val ++ ']' :: rest)) = .ok (.list [], rest) := by
  simp only [value, skipSpace_space, skipSpace_of_not (c := ']') rfl]

theorem value_braces (gap : Space) (fuel : Nat) :
    value (fuel + 1) ('\x7b' :: (gap.val ++ '\x7d' :: rest)) = .ok (.map [], rest) := by
  simp only [value, skipSpace_space, skipSpace_of_not (c := '\x7d') rfl]

mutual

/-- The recursion is on the tree. There is fuel for a part, because its text is shorter. -/
theorem yields_value : ∀ (t : Tree) {rest : List Char} {fuel : Nat}, Ends rest →
    t.text.length ≤ fuel → Yields (value fuel (t.text ++ rest)) t.value rest
  | t, _, 0 => fun _ hfuel => absurd t.opens.pos (Nat.not_lt.mpr hfuel)
  | .word w, _, fuel + 1 => fun _ _ => .inr (value_word w fuel)
  | .numeral n, _, fuel + 1 => fun hrest _ => yields_numeral n hrest fuel
  | .string ps, _, fuel + 1 => fun _ _ => yields_string ps fuel
  | .emptyArray gap, rest, fuel + 1 => fun _ _ => by
    rw [Tree.text, List.cons_append, List.append_assoc]
    exact .inr (value_brackets gap fuel)
  | .array gap items, rest, fuel + 1 => fun _ hfuel => by
    have hopens := items.opens.append (']' :: rest)
    have hlength : items.text.length < fuel := by
      simp only [Tree.text, List.length_cons, List.length_append, List.length_nil] at hfuel
      omega
    have hitems : Yields (elements fuel (items.text ++ ']' :: rest)) items.values rest :=
      yields_elements items hlength
    rw [Tree.text, List.cons_append, List.append_assoc, List.append_assoc, value_array,
      skipSpace_space, List.singleton_append, hopens.skipSpace]
    · exact hitems.map Value.list
    · rwa [skipSpace_space, List.singleton_append, hopens.skipSpace]
  | .emptyObject gap, rest, fuel + 1 => fun _ _ => by
    rw [Tree.text, List.cons_append, List.append_assoc]
    exact .inr (value_braces gap fuel)
  | .object gap ms, rest, fuel + 1 => fun _ hfuel => by
    obtain ⟨cs, hcs⟩ := ms.opens
    have hlength : ms.text.length < fuel := by
      simp only [Tree.text, List.length_cons, List.length_append, List.length_nil] at hfuel
      omega
    have hmembers : Yields (members fuel (ms.text ++ '\x7d' :: rest)) (entriesOf ms.pairs) rest :=
      yields_members ms hlength
    rw [hcs, List.cons_append] at hmembers
    rw [Tree.text, Tree.value, ← ofPairs_eq_settle, hcs, List.cons_append, List.append_assoc,
      List.append_assoc, value_object]
    · exact hmembers.map fun kvs => Value.map (Value.ofPairs kvs)
    · rw [skipSpace_space]
      exact skipSpace_of_not rfl _

theorem yields_elements : ∀ (items : Items) {rest : List Char} {fuel : Nat},
    items.text.length < fuel → Yields (elements fuel (items.text ++ ']' :: rest)) items.values rest
  | _, _, 0 => nofun
  | .last item after, rest, fuel + 1 => fun hfuel => by
    have hlength : item.text.length ≤ fuel := by
      simp only [Items.text, List.length_append] at hfuel
      omega
    rw [Items.text, List.append_assoc, elements_succ]
    exact yields_last after (.inl rfl) fun hrest => yields_value item hrest hlength
  | .next item after gap items, rest, fuel + 1 => fun hfuel => by
    have hlength : item.text.length ≤ fuel ∧ items.text.length < fuel := by
      simp only [Items.text, List.length_append, List.length_cons] at hfuel
      omega
    rw [elements_succ]
    simp only [Items.text, List.append_assoc, List.cons_append]
    exact yields_next after (.inl rfl) (fun hrest => yields_value item hrest hlength.1) gap
      (items.opens.append _).skipSpace (yields_elements items hlength.2)

theorem yields_members : ∀ (ms : Members) {rest : List Char} {fuel : Nat},
    ms.text.length < fuel →
    Yields (members fuel (ms.text ++ '\x7d' :: rest)) (entriesOf ms.pairs) rest
  | _, _, 0 => nofun
  | .last key item after, rest, fuel + 1 => fun hfuel => by
    have hlength : item.text.length ≤ fuel := by
      simp only [Members.text, List.length_append] at hfuel
      omega
    rw [Members.text, List.append_assoc, List.append_assoc,
      members_key key (item.opens.append _).skipSpace]
    exact yields_last after (.inr rfl) fun hrest => yields_value item hrest hlength
  | .next key item after gap ms, rest, fuel + 1 => fun hfuel => by
    obtain ⟨cs, hcs⟩ := ms.opens
    have hlength : item.text.length ≤ fuel ∧ ms.text.length < fuel := by
      simp only [Members.text, List.length_append, List.length_cons] at hfuel
      omega
    have hspace : skipSpace (ms.text ++ '\x7d' :: rest) = ms.text ++ '\x7d' :: rest := by
      rw [hcs]
      exact skipSpace_of_not rfl _
    simp only [Members.text, List.append_assoc, List.cons_append]
    rw [members_key key (item.opens.append _).skipSpace]
    exact yields_next after (.inr rfl) (fun hrest => yields_value item hrest hlength.1) gap hspace
      (yields_members ms hlength.2)

end

end Json
end ClientCompiler
