import ClientCompiler.Proofs.Json.Acceptance

/-!
What is read is what the syntax has. Whatever a reader gives is a tree with its value, and it stops
at an integer that is too long only where the text has such an integer in place of a value. So a
text is read exactly if it holds a value, and as this value.
-/

namespace ClientCompiler.Json

variable {cs rest : List Char}

/-! ## Whatever is read is a tree -/

/-- What a reader gives is of a kind, and it stops at an integer that is too long only after such
text as may stand before a value. -/
structure Recognises {α : Type} (cs : List Char) (r : Reading α) (kind : α → List Char → Prop)
    (upTo : List Char → Prop) : Prop where
  sound : ∀ {a rest}, r = .ok (a, rest) → kind a rest
  tooLong : r = .error .integerTooLong → ∃ inside rest, cs = inside ++ rest ∧ upTo inside ∧
    LongInteger rest

theorem recognises_refuse {α : Type} {kind : α → List Char → Prop} {upTo : List Char → Prop}
    (cause : Cause) (left : List Char) : Recognises cs (refuse cause left) kind upTo := ⟨nofun, nofun⟩

theorem recognises_ok {α : Type} {kind : α → List Char → Prop} {upTo : List Char → Prop} {a : α}
    (h : kind a rest) : Recognises cs (.ok (a, rest)) kind upTo where
  sound heq := by
    obtain ⟨rfl, rfl⟩ := Prod.mk.inj (Except.ok.inj heq)
    exact h
  tooLong := nofun

/-- A reader that stopped in a part of the text stops in the text. -/
theorem Recognises.error {α β : Type} {kind : α → List Char → Prop} {kind' : β → List Char → Prop}
    {upTo upTo' : List Char → Prop} {e : Failure} (h : Recognises cs (.error e) kind upTo)
    {text : List Char} (pre : List Char) (htext : text = pre ++ cs)
    (hupTo : ∀ {inside}, upTo inside → upTo' (pre ++ inside)) :
    Recognises text (.error e) kind' upTo' where
  sound := nofun
  tooLong heq := by
    obtain ⟨inside, rest, rfl, hinside, hlong⟩ :=
      h.tooLong (congrArg Except.error (Except.error.inj heq))
    exact ⟨pre ++ inside, rest, by rw [htext, List.append_assoc], hupTo hinside, hlong⟩

theorem Recognises.map {α β : Type} {r : Reading α} {kind : α → List Char → Prop}
    {upTo upTo' : List Char → Prop} {kind' : β → List Char → Prop} {f : α → β} {text : List Char}
    (h : Recognises cs r kind upTo) (pre : List Char) (htext : text = pre ++ cs)
    (hkind : ∀ {a rest}, kind a rest → kind' (f a) rest)
    (hupTo : ∀ {inside}, upTo inside → upTo' (pre ++ inside)) :
    Recognises text (r.map fun (a, rest) => (f a, rest)) kind' upTo' := by
  cases r with
  | error e => exact h.error pre htext hupTo
  | ok x => exact recognises_ok (hkind (h.sound rfl))

def IsItem (cs : List Char) (v : Value) (rest : List Char) : Prop :=
  ∃ t : Tree, cs = t.text ++ rest ∧ t.value = v ∧ v.isRegular = true

def AreItems (cs : List Char) (vs : List Value) (rest : List Char) : Prop :=
  ∃ items : Items, cs = items.text ++ ']' :: rest ∧ items.values = vs ∧ Value.allRegular vs = true

def AreMembers (cs : List Char) (kvs : Value.Entries) (rest : List Char) : Prop :=
  ∃ ms : Members, cs = ms.text ++ '\x7d' :: rest ∧ entriesOf ms.pairs = kvs ∧
    ∀ p ∈ ms.pairs, p.2.isRegular = true

/-! ### Values that are read -/

theorem Numeral.isRegular_value (n : Numeral)
    (h : n.isInteger = true → n.whole.val.length ≤ maxIntegerDigits) :
    n.value.isRegular = true := by
  rw [Numeral.value]
  split
  · next hinteger => exact isWritableInteger_withSign n.negative (h hinteger)
  · rfl

theorem isRegular_lastUnder {pairs : List (String × Value)}
    (h : ∀ p ∈ pairs, p.2.isRegular = true) (name : String) :
    (lastUnder name pairs).isRegular = true := by
  induction pairs using List.reverseRecOn with
  | nil => rfl
  | append_singleton pairs p ih =>
    obtain ⟨hpairs, hp⟩ := List.forall_mem_append.mp h
    rw [lastUnder_append]
    split
    · exact hp p List.mem_cons_self
    · exact ih hpairs

theorem allEntriesRegular_map {l : List String} {f : String → Value}
    (h : ∀ n, (f n).isRegular = true) :
    Value.allEntriesRegular (l.map fun n => (.str n, f n)) = true := by
  induction l with
  | nil => rfl
  | cons n l ih => rw [List.map_cons, Value.allEntriesRegular, h n, ih, Bool.and_self]

theorem isRegular_settle {pairs : List (String × Value)} (h : ∀ p ∈ pairs, p.2.isRegular = true) :
    (Value.map (settle pairs)).isRegular = true := by
  rw [Value.isRegular, settle, Value.hasDistinctNames_map_str (nodup_eraseDups _),
    allEntriesRegular_map (isRegular_lastUnder h), Bool.and_self]

theorem recognises_word (w : Word) (rest : List Char) :
    Recognises (w.text ++ rest) (.ok (w.value, rest)) (IsItem (w.text ++ rest)) UpTo :=
  recognises_ok ⟨.word w, rfl, rfl, by cases w <;> rfl⟩

theorem recognises_number (cs : List Char) : Recognises cs (number cs) (IsItem cs) UpTo where
  sound h := by
    obtain ⟨n, hcs, rfl, hlength⟩ := readsNumeral_of_number h
    exact ⟨.numeral n, hcs, rfl, n.isRegular_value hlength⟩
  tooLong h := ⟨[], cs, rfl, .here, longInteger_of_number h⟩

theorem recognises_string (cs : List Char) :
    Recognises ('"' :: cs) ((stringBody cs).map fun (s, rest) => (.str s, rest))
      (IsItem ('"' :: cs)) UpTo := by
  have hbody : Recognises cs (stringBody cs)
      (fun s rest => ∃ ps : List Piece, cs = stringTail ps ++ rest ∧ stringOf ps = s)
      (fun _ => False) := ⟨stringBody_eq_ok, fun h => absurd h (stringBody_ne_tooLong cs)⟩
  refine hbody.map ['"'] rfl ?_ False.elim
  rintro _ rest ⟨ps, rfl, rfl⟩
  exact ⟨.string ps, rfl, rfl, rfl⟩

/-! ### Rows that are read -/

/-- How rows of a kind grow. Before each value stands what `pre` gives. -/
structure GrowsBy {α : Type} (pre : List Char) (close : Char) (f : Value → α)
    (kind : List Char → List α → List Char → Prop) (upTo : List Char → Prop) : Prop where
  last : ∀ {t : Tree} (after : Space) {rest : List Char}, t.value.isRegular = true →
    kind (pre ++ (t.text ++ (after.val ++ close :: rest))) [f t.value] rest
  next : ∀ {t : Tree} (after gap : Space) {cs rest : List Char} {as : List α},
    t.value.isRegular = true → kind cs as rest →
    kind (pre ++ (t.text ++ (after.val ++ ',' :: (gap.val ++ cs)))) (f t.value :: as) rest
  here : ∀ {inside : List Char}, UpTo inside → upTo (pre ++ inside)
  later : ∀ (t : Tree) (after gap : Space) {inside : List Char}, upTo inside →
    upTo (pre ++ (t.text ++ (after.val ++ ',' :: (gap.val ++ inside))))

theorem growsBy_item : GrowsBy [] ']' id AreItems UpToItem where
  last {t} after rest h := by
    refine ⟨.last t after, ?_, rfl, ?_⟩
    · simp [Items.text]
    · rw [id, Value.allRegular, h]
      rfl
  next {t} after gap cs rest as h := by
    rintro ⟨items, rfl, rfl, hitems⟩
    refine ⟨.next t after gap items, ?_, rfl, ?_⟩
    · simp [Items.text]
    · rw [id, Value.allRegular, h, hitems]
      rfl
  here := .item
  later t after gap _ h := .next t after gap h

theorem growsBy_member (k : Key) :
    GrowsBy k.text '\x7d' (Prod.mk (.str (stringOf k.name))) AreMembers UpToMember where
  last {t} after rest h := by
    refine ⟨.last k t after, ?_, rfl, ?_⟩
    · simp [Members.text]
    · simpa [Members.pairs] using h
  next {t} after gap cs rest as h := by
    rintro ⟨ms, rfl, rfl, hms⟩
    refine ⟨.next k t after gap ms, ?_, rfl, ?_⟩
    · simp [Members.text]
    · exact List.forall_mem_cons.mpr ⟨h, hms⟩
  here := .item k
  later t after gap _ h := .next k t after gap h

/-- After a value the row ends, or it goes on behind a comma, or the text is refused. -/
theorem recognises_row {α : Type} {fuel : Nat} {close : Char} {f : Value → α}
    {more : List Char → Reading (List α)} {pre : List Char}
    {kind : List Char → List α → List Char → Prop} {upTo : List Char → Prop}
    (hgrows : GrowsBy pre close f kind upTo)
    (hvalue : Recognises cs (value fuel cs) (IsItem cs) UpTo)
    (hmore : ∀ cs, Recognises cs (more cs) (kind cs) upTo) :
    Recognises (pre ++ cs) (row fuel close f more cs) (kind (pre ++ cs)) upTo := by
  rw [row]
  cases hread : value fuel cs with
  | error e =>
    rw [hread] at hvalue
    exact hvalue.error pre rfl hgrows.here
  | ok x =>
    obtain ⟨v, r⟩ := x
    obtain ⟨t, rfl, rfl, hregular⟩ := hvalue.sound hread
    have hr := blanks_append_skipSpace r
    simp only [Except.bind]
    cases hnext : skipSpace r with
    | nil => exact recognises_refuse _ _
    | cons c cs =>
      rw [hnext] at hr
      by_cases hclose : c = close
      · subst hclose
        rw [← hr]
        simp only [if_true]
        exact recognises_ok (hgrows.last (blanks r) hregular)
      by_cases hcomma : c = ','
      · subst hcomma
        have hcs := blanks_append_skipSpace cs
        have htext : pre ++ (t.text ++ r) = pre ++ (t.text ++ ((blanks r).val ++ ',' ::
            ((blanks cs).val ++ skipSpace cs))) := by rw [hcs, hr]
        simp only [if_neg hclose, if_true]
        rw [htext]
        refine (hmore (skipSpace cs)).map
          (pre ++ (t.text ++ ((blanks r).val ++ ',' :: (blanks cs).val))) (by simp)
          (hgrows.next (blanks r) (blanks cs) hregular) ?_
        intro inside hinside
        have hlater := hgrows.later t (blanks r) (blanks cs) hinside
        simpa using hlater
      · simp only [if_neg hclose, if_neg hcomma]
        exact recognises_refuse _ _

theorem skipSpace_skipSpace (cs : List Char) : skipSpace (skipSpace cs) = skipSpace cs := by
  rw [← skipSpace_space (blanks cs), blanks_append_skipSpace]

theorem members_cases (fuel : Nat) (cs : List Char) :
    (∃ cause left, members (fuel + 1) cs = .error (.malformed cause left)) ∨
      ∃ (k : Key) (tail : List Char), cs = k.text ++ tail ∧ skipSpace tail = tail := by
  rw [members.eq_def]
  simp only
  split
  · next r =>
    cases hname : stringBody r with
    | error e =>
      cases e with
      | malformed cause left => exact .inl ⟨cause, left, rfl⟩
      | integerTooLong => exact absurd hname (stringBody_ne_tooLong r)
    | ok x =>
      obtain ⟨name, tail⟩ := x
      obtain ⟨ps, rfl, rfl⟩ := stringBody_eq_ok hname
      simp only [bind, Except.bind]
      have htail := blanks_append_skipSpace tail
      split
      · next value hcolon =>
        have hvalue := blanks_append_skipSpace value
        refine .inr ⟨⟨ps, blanks tail, blanks value⟩, skipSpace value, ?_, skipSpace_skipSpace value⟩
        rw [hcolon] at htail
        simp [Key.text, hvalue, htail]
      · exact .inl ⟨_, _, rfl⟩
  · exact .inl ⟨_, _, rfl⟩

section Step

variable {fuel : Nat} (hvalue : ∀ cs, Recognises cs (value fuel cs) (IsItem cs) UpTo)
  (hitems : ∀ cs, Recognises cs (elements fuel cs) (AreItems cs) UpToItem)
  (hmembers : ∀ cs, Recognises cs (members fuel cs) (AreMembers cs) UpToMember)

include hvalue hitems in
theorem recognises_elements (cs : List Char) :
    Recognises cs (elements (fuel + 1) cs) (AreItems cs) UpToItem := by
  rw [elements_succ]
  exact recognises_row growsBy_item (hvalue cs) hitems

include hvalue hmembers in
theorem recognises_members (cs : List Char) :
    Recognises cs (members (fuel + 1) cs) (AreMembers cs) UpToMember := by
  rcases members_cases fuel cs with ⟨cause, left, h⟩ | ⟨k, tail, rfl, htail⟩
  · rw [h]
    exact ⟨nofun, nofun⟩
  · rw [members_key k htail]
    exact recognises_row (growsBy_member k) (hvalue tail) hmembers

include hitems in
theorem recognises_array (cs : List Char) :
    Recognises ('[' :: cs) ((elements fuel (skipSpace cs)).map fun (xs, rest) => (.list xs, rest))
      (IsItem ('[' :: cs)) UpTo := by
  have hcs := blanks_append_skipSpace cs
  refine (hitems (skipSpace cs)).map ('[' :: (blanks cs).val) (by simp [hcs]) ?_ (.array _)
  rintro _ rest ⟨items, hitems, rfl, hregular⟩
  refine ⟨.array (blanks cs) items, ?_, rfl, hregular⟩
  rw [hitems] at hcs
  simpa [Tree.text] using hcs.symm

include hmembers in
theorem recognises_object (cs : List Char) :
    Recognises ('\x7b' :: cs) ((members fuel (skipSpace cs)).map fun (kvs, rest) =>
      (.map (Value.ofPairs kvs), rest)) (IsItem ('\x7b' :: cs)) UpTo := by
  have hcs := blanks_append_skipSpace cs
  refine (hmembers (skipSpace cs)).map (f := fun kvs => Value.map (Value.ofPairs kvs))
    ('\x7b' :: (blanks cs).val) (by simp [hcs]) ?_ (.object _)
  rintro _ rest ⟨ms, hms, rfl, hregular⟩
  rw [ofPairs_eq_settle]
  refine ⟨.object (blanks cs) ms, ?_, rfl, isRegular_settle hregular⟩
  rw [hms] at hcs
  simpa [Tree.text] using hcs.symm

theorem recognises_brackets {cs r : List Char} (h : skipSpace cs = ']' :: r) :
    Recognises ('[' :: cs) (.ok (.list [], r)) (IsItem ('[' :: cs)) UpTo := by
  have hcs := blanks_append_skipSpace cs
  rw [h] at hcs
  exact recognises_ok
    ⟨.emptyArray (blanks cs), by simpa [Tree.text] using hcs.symm, rfl, rfl⟩

theorem recognises_braces {cs r : List Char} (h : skipSpace cs = '\x7d' :: r) :
    Recognises ('\x7b' :: cs) (.ok (.map [], r)) (IsItem ('\x7b' :: cs)) UpTo := by
  have hcs := blanks_append_skipSpace cs
  rw [h] at hcs
  exact recognises_ok
    ⟨.emptyObject (blanks cs), by simpa [Tree.text] using hcs.symm, rfl, rfl⟩

include hitems hmembers in
theorem recognises_value (cs : List Char) :
    Recognises cs (value (fuel + 1) cs) (IsItem cs) UpTo := by
  rw [value.eq_def]
  simp only
  split
  · exact recognises_string _
  · split
    · next h => exact recognises_braces h
    · exact recognises_object hmembers _
  · split
    · next h => exact recognises_brackets h
    · exact recognises_array hitems _
  · exact recognises_word .null _
  · exact recognises_word .true _
  · exact recognises_word .false _
  · exact recognises_word .nan _
  · exact recognises_word .infinity _
  · exact recognises_word .minusInfinity _
  · exact recognises_number _

end Step

/-- The readers call each other with less fuel, so that one induction on it serves all three. -/
theorem recognises (fuel : Nat) :
    (∀ cs, Recognises cs (value fuel cs) (IsItem cs) UpTo) ∧
    (∀ cs, Recognises cs (elements fuel cs) (AreItems cs) UpToItem) ∧
    (∀ cs, Recognises cs (members fuel cs) (AreMembers cs) UpToMember) := by
  induction fuel with
  | zero =>
    refine ⟨fun cs => ?_, fun cs => ?_, fun cs => ?_⟩
    · rw [value]
      exact recognises_refuse _ _
    · rw [elements]
      exact recognises_refuse _ _
    · rw [members]
      exact recognises_refuse _ _
  | succ fuel ih =>
    obtain ⟨hvalue, hitems, hmembers⟩ := ih
    exact ⟨recognises_value hitems hmembers, recognises_elements hvalue hitems,
      recognises_members hvalue hmembers⟩

/-! ## Whole texts -/

variable {s : List Char} {v : Value}

theorem longInteger_of_parse (h : parse s = .error .integerTooLong) : HasLongInteger s := by
  have hs := blanks_append_skipSpace s
  have hvalue := (recognises (s.length + 1)).1 (skipSpace s)
  rw [parse] at h
  split at h
  · cases h
  cases hread : value (s.length + 1) (skipSpace s) with
  | error e =>
    simp only [hread] at h
    obtain ⟨inside, rest, htext, hinside, hlong⟩ :=
      hvalue.tooLong (hread.trans (congrArg Except.error (Except.error.inj h)))
    exact ⟨blanks s, inside, rest, by rw [← htext, hs], hinside, hlong⟩
  | ok x =>
    simp only [hread] at h
    split at h <;> cases h

theorem holds_of_parse (h : parse s = .ok v) : Holds s v ∧ v.isRegular = true := by
  have hs := blanks_append_skipSpace s
  have hvalue := (recognises (s.length + 1)).1 (skipSpace s)
  rw [parse] at h
  split at h
  · cases h
  cases hread : value (s.length + 1) (skipSpace s) with
  | error e =>
    simp only [hread] at h
    cases h
  | ok x =>
    obtain ⟨w, rest⟩ := x
    simp only [hread] at h
    split at h
    · next hrest =>
      obtain rfl := Except.ok.inj h
      obtain ⟨t, htext, hvalue, hregular⟩ := hvalue.sound hread
      have hblank := blanks_append_skipSpace rest
      rw [hrest, List.append_nil] at hblank
      exact ⟨⟨blanks s, t, blanks rest, by rw [hblank, ← htext, hs], hvalue⟩, hregular⟩
    · cases h

theorem head_ne_byteOrderMark (before : Space) {cs : List Char} (h : Opens cs) :
    (before.val ++ cs).head? ≠ some '\uFEFF' := by
  obtain ⟨before, hbefore⟩ := before
  cases before with
  | nil =>
    obtain ⟨c, r, rfl, hopens⟩ := h
    simpa using (opens_eq_true.mp hopens).2.2
  | cons c before =>
    have hc := hbefore c List.mem_cons_self
    simp only [List.mem_cons, List.not_mem_nil, or_false] at hc
    rcases hc with rfl | rfl | rfl | rfl <;> exact ne_of_beq_false rfl

theorem parse_of_holds (h : Holds s v) : parse s = .error .integerTooLong ∨ parse s = .ok v := by
  obtain ⟨before, t, after, rfl, rfl⟩ := h
  have hopens := t.opens.append after.val
  have hafter : skipSpace after.val = [] := by
    have hspace := skipSpace_space after []
    rwa [List.append_nil] at hspace
  have hends : Ends after.val := by
    have hspace := ends_space after ends_nil
    rwa [List.append_nil] at hspace
  have hlength : t.text.length ≤ (before.val ++ (t.text ++ after.val)).length + 1 := by
    simp only [List.length_append]
    omega
  rw [parse, if_neg (head_ne_byteOrderMark before hopens), skipSpace_space, hopens.skipSpace]
  rcases yields_value t hends hlength with hread | hread <;> rw [hread]
  · exact .inl rfl
  · refine .inr ?_
    simp only [hafter]

theorem parse_eq_ok (hs : ¬ HasLongInteger s) : parse s = .ok v ↔ Holds s v := by
  constructor
  · exact fun h => (holds_of_parse h).1
  · intro h
    rcases parse_of_holds h with hlong | hread
    · exact absurd (longInteger_of_parse hlong) hs
    · exact hread

theorem length_of_hasLongInteger (h : HasLongInteger s) : 4300 < s.length := by
  obtain ⟨before, inside, _, rfl, -, n, rest, rfl, -, hlong, -⟩ := h
  simp only [Numeral.text, List.length_append]
  omega

end ClientCompiler.Json
