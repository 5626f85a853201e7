import ClientCompiler.Emission.Formatter
import ClientCompiler.Proofs.Fields
import ClientCompiler.Proofs.Json.Numerals
import ClientCompiler.Proofs.Json.Strings
import ClientCompiler.Proofs.Returning

/-!
JSON that is written is read back: the same value, with the keys of objects in the same order. The
induction is on the value; what stands between the pieces of a list or an object is blank, so that
the reader comes to each piece where it starts.
-/

namespace ClientCompiler

namespace Value

mutual

/-- Whether a value is one that JSON has: keys are texts, integers have a text, and floating point
numbers are read back from their texts. -/
def isPlain : Value → Bool
  | .null => true
  | .bool _ => true
  | .int i => isWritableInteger i
  | .float x => Json.readsBack x
  | .str _ => true
  | .list xs => allPlain xs
  | .map kvs => hasDistinctNames kvs && allEntriesPlain kvs
  | _ => false

def allPlain : List Value → Bool
  | [] => true
  | x :: xs => isPlain x && allPlain xs

def allEntriesPlain : List (Value × Value) → Bool
  | [] => true
  | (_, v) :: kvs => isPlain v && allEntriesPlain kvs

end

mutual

/-- Whether a value is one that JSON has, whatever its floating point numbers are. -/
def isRegular : Value → Bool
  | .null => true
  | .bool _ => true
  | .int i => isWritableInteger i
  | .float _ => true
  | .str _ => true
  | .list xs => allRegular xs
  | .map kvs => hasDistinctNames kvs && allEntriesRegular kvs
  | _ => false

def allRegular : List Value → Bool
  | [] => true
  | x :: xs => isRegular x && allRegular xs

def allEntriesRegular : List (Value × Value) → Bool
  | [] => true
  | (_, v) :: kvs => isRegular v && allEntriesRegular kvs

end

mutual

def floats : Value → List Double
  | .float x => [x]
  | .list xs => itemFloats xs
  | .map kvs => entryFloats kvs
  | _ => []

def itemFloats : List Value → List Double
  | [] => []
  | x :: xs => floats x ++ itemFloats xs

def entryFloats : List (Value × Value) → List Double
  | [] => []
  | (_, v) :: kvs => floats v ++ entryFloats kvs

end

mutual

theorem isPlain_eq : ∀ v : Value, v.isPlain = (v.isRegular && v.floats.all Json.readsBack)
  | .null | .bool _ | .str _ => rfl
  | .int _ => (Bool.and_true _).symm
  | .float x => by simp [isPlain, isRegular, floats]
  | .list xs => allPlain_eq xs
  | .map kvs => by
    rw [isPlain, isRegular, floats, allEntriesPlain_eq kvs, Bool.and_assoc]
  | .bytes _ | .date _ | .moment _ | .tuple _ | .set _ | .again _ => rfl

theorem allPlain_eq : ∀ xs : List Value,
    allPlain xs = (allRegular xs && (itemFloats xs).all Json.readsBack)
  | [] => rfl
  | x :: xs => by
    rw [allPlain, allRegular, itemFloats, List.all_append, isPlain_eq x, allPlain_eq xs]
    ac_rfl

theorem allEntriesPlain_eq : ∀ kvs : List (Value × Value),
    allEntriesPlain kvs = (allEntriesRegular kvs && (entryFloats kvs).all Json.readsBack)
  | [] => rfl
  | (_, v) :: kvs => by
    rw [allEntriesPlain, allEntriesRegular, entryFloats, List.all_append, isPlain_eq v,
      allEntriesPlain_eq kvs]
    ac_rfl

end

end Value

namespace Json

/-- A character that is neither blank, nor the end of a list, nor a byte order mark. -/
def opens (c : Char) : Bool := !isSpace c && c != ']' && c != '\uFEFF'

/-- The text `s` stands for the value `v` wherever an item may stand. -/
structure Written (v : Value) (s : List Char) : Prop where
  starts : ∃ c cs, s = c :: cs ∧ opens c = true
  lines : '\r' ∉ s
  reads : ∀ rest fuel, Delimits rest → s.length ≤ fuel → value fuel (s ++ rest) = .ok (v, rest)

def WrittenEntry (kv : Value × Value) (p : List Char) : Prop :=
  ∃ name s, kv.1 = .str name ∧ p = quote name.toList ++ ':' :: ' ' :: s ∧ Written kv.2 s

theorem WrittenEntry.starts {kv : Value × Value} {p : List Char} (h : WrittenEntry kv p) :
    ∃ cs, p = '"' :: cs := by
  obtain ⟨name, s, _, rfl, _⟩ := h
  exact ⟨_, rfl⟩

section Blanks

theorem opens_eq_true {c : Char} :
    opens c = true ↔ isSpace c = false ∧ c ≠ ']' ∧ c ≠ '\uFEFF' := by
  simp [opens, and_assoc]

theorem skipSpace_of_not {c : Char} (h : isSpace c = false) (cs : List Char) :
    skipSpace (c :: cs) = c :: cs := by
  rw [skipSpace, List.dropWhile_cons_of_neg (by simp [h])]

def Opens (cs : List Char) : Prop := ∃ c r, cs = c :: r ∧ opens c = true

theorem Opens.append {cs : List Char} (h : Opens cs) (rest : List Char) : Opens (cs ++ rest) := by
  obtain ⟨c, r, rfl, hc⟩ := h
  exact ⟨c, r ++ rest, rfl, hc⟩

theorem Opens.skipSpace {cs : List Char} (h : Opens cs) : Json.skipSpace cs = cs := by
  obtain ⟨c, r, rfl, hc⟩ := h
  exact skipSpace_of_not (opens_eq_true.mp hc).1 r

theorem Opens.pos {cs : List Char} (h : Opens cs) : 0 < cs.length := by
  obtain ⟨c, r, rfl, -⟩ := h
  exact Nat.succ_pos _

theorem value_array {cs : List Char} (h : Opens (Json.skipSpace cs)) (fuel : Nat) :
    value (fuel + 1) ('[' :: cs) =
      (elements fuel (Json.skipSpace cs)).map fun (xs, rest) => (.list xs, rest) := by
  obtain ⟨c, r, hcs, hopens⟩ := h
  rw [value, hcs]
  split
  · next hstart => exact absurd (List.cons.inj hstart).1 (opens_eq_true.mp hopens).2.1
  · rfl

theorem value_object {cs r : List Char} (h : Json.skipSpace cs = '"' :: r) (fuel : Nat) :
    value (fuel + 1) ('\x7b' :: cs) =
      (members fuel ('"' :: r)).map fun (kvs, rest) => (.map (Value.ofPairs kvs), rest) := by
  rw [value, h]
  rfl

theorem skipSpace_newline (depth : Nat) (cs : List Char) :
    skipSpace (newline depth ++ cs) = skipSpace cs := by
  refine List.dropWhile_append_of_pos ?_
  intro c hc
  rcases List.mem_cons.mp hc with rfl | hc
  · rfl
  · rw [List.eq_of_mem_replicate hc]
    rfl

theorem Written.opens {v : Value} {s : List Char} (h : Written v s) : Opens s := h.starts

theorem Written.skipSpace {v : Value} {s : List Char} (h : Written v s) (rest : List Char) :
    Json.skipSpace (s ++ rest) = s ++ rest := (h.opens.append rest).skipSpace

theorem WrittenEntry.skipSpace {kv : Value × Value} {p : List Char} (h : WrittenEntry kv p)
    (rest : List Char) : Json.skipSpace (p ++ rest) = p ++ rest := by
  obtain ⟨cs, rfl⟩ := h.starts
  exact skipSpace_of_not rfl _

theorem joined_cons (sep p : List Char) (ps : List (List Char)) :
    ∃ rest, Value.joined sep (p :: ps) = p ++ rest := by
  cases ps with
  | nil => exact ⟨[], (List.append_nil p).symm⟩
  | cons q ps => exact ⟨sep ++ Value.joined sep (q :: ps), List.append_assoc _ _ _⟩

end Blanks

section Pieces

variable (depth closing : Nat) (rest : List Char)

theorem delimits_newline (depth : Nat) (cs : List Char) : Delimits (newline depth ++ cs) :=
  Or.inr rfl

theorem delimits_comma (cs : List Char) : Delimits (',' :: cs) := Or.inl rfl

omit depth closing rest in
theorem elements_written {x : Value} {s rest : List Char} {fuel : Nat} (h : Written x s)
    (hrest : Delimits rest) (hfuel : s.length ≤ fuel) :
    elements (fuel + 1) (s ++ rest) =
      match skipSpace rest with
      | ']' :: r => .ok ([x], r)
      | ',' :: r => do
        let (xs, r) ← elements fuel (skipSpace r)
        return (x :: xs, r)
      | r => refuse .comma r := by
  rw [elements, h.reads rest fuel hrest hfuel]
  rfl

omit depth closing rest in
theorem members_written {kv : Value × Value} {p rest : List Char} {fuel : Nat}
    (h : WrittenEntry kv p) (hrest : Delimits rest) (hfuel : p.length ≤ fuel) :
    members (fuel + 1) (p ++ rest) =
      match skipSpace rest with
      | '\x7d' :: r => .ok ([kv], r)
      | ',' :: r => do
        let (kvs, r) ← members fuel (skipSpace r)
        return (kv :: kvs, r)
      | r => refuse .comma r := by
  obtain ⟨key, v⟩ := kv
  obtain ⟨name, s, rfl, rfl, hs⟩ := h
  have hlength : s.length ≤ fuel := by
    simp only [List.length_append, List.length_cons] at hfuel
    omega
  have hkey := stringBody_escaped name.toList (':' :: ' ' :: (s ++ rest))
  have htext : quote name.toList ++ ':' :: ' ' :: s ++ rest =
      '"' :: (name.toList.flatMap escapeChar ++ '"' :: ':' :: ' ' :: (s ++ rest)) := by
    simp [quote]
  have hblank : skipSpace (' ' :: (s ++ rest)) = s ++ rest := hs.skipSpace rest
  rw [htext, members, hkey, String.ofList_toList]
  simp only [bind, Except.bind, skipSpace_of_not (c := ':') rfl, hblank,
    hs.reads rest fuel hrest hlength]
  rfl

theorem elements_joined {xs : List Value} {ps : List (List Char)}
    (h : List.Forall₂ Written xs ps) (hne : xs ≠ []) {fuel : Nat}
    (hfuel : (Value.joined (',' :: newline depth) ps).length < fuel) :
    elements fuel
        (Value.joined (',' :: newline depth) ps ++ (newline closing ++ ']' :: rest)) =
      .ok (xs, rest) := by
  induction h generalizing fuel with
  | nil => exact absurd rfl hne
  | @cons x p xs ps hx hxs ih =>
    obtain ⟨fuel, rfl⟩ : ∃ k, fuel = k + 1 := ⟨fuel - 1, by omega⟩
    cases hxs with
    | nil =>
      rw [Value.joined] at hfuel ⊢
      rw [elements_written hx (delimits_newline closing _) (by omega), skipSpace_newline,
        skipSpace_of_not rfl]
      rfl
    | @cons y q ys qs hy hys =>
      obtain ⟨more, hmore⟩ := joined_cons (',' :: newline depth) q qs
      have hblank := hy.skipSpace (more ++ (newline closing ++ ']' :: rest))
      rw [← List.append_assoc, ← hmore] at hblank
      rw [Value.joined, List.length_append, List.length_append, List.length_cons] at hfuel
      have hp : p.length ≤ fuel := by omega
      rw [Value.joined, List.append_assoc, List.append_assoc, List.cons_append,
        elements_written hx (delimits_comma _) hp, skipSpace_of_not rfl]
      simp only [skipSpace_newline, hblank]
      rw [ih (List.cons_ne_nil y ys) (by omega)]
      rfl

theorem members_joined {kvs : Value.Entries} {ps : List (List Char)}
    (h : List.Forall₂ WrittenEntry kvs ps) (hne : kvs ≠ []) {fuel : Nat}
    (hfuel : (Value.joined (',' :: newline depth) ps).length < fuel) :
    members fuel
        (Value.joined (',' :: newline depth) ps ++ (newline closing ++ '\x7d' :: rest)) =
      .ok (kvs, rest) := by
  induction h generalizing fuel with
  | nil => exact absurd rfl hne
  | @cons kv p kvs ps hkv hkvs ih =>
    obtain ⟨fuel, rfl⟩ : ∃ k, fuel = k + 1 := ⟨fuel - 1, by omega⟩
    cases hkvs with
    | nil =>
      rw [Value.joined] at hfuel ⊢
      rw [members_written hkv (delimits_newline closing _) (by omega), skipSpace_newline,
        skipSpace_of_not rfl]
      rfl
    | @cons lw q lws qs hlw hlws =>
      obtain ⟨more, hmore⟩ := joined_cons (',' :: newline depth) q qs
      have hblank := hlw.skipSpace (more ++ (newline closing ++ '\x7d' :: rest))
      rw [← List.append_assoc, ← hmore] at hblank
      rw [Value.joined, List.length_append, List.length_append, List.length_cons] at hfuel
      have hp : p.length ≤ fuel := by omega
      rw [Value.joined, List.append_assoc, List.append_assoc, List.cons_append,
        members_written hkv (delimits_comma _) hp, skipSpace_of_not rfl]
      simp only [skipSpace_newline, hblank]
      rw [ih (List.cons_ne_nil lw lws) (by omega)]
      rfl

end Pieces

section Blocks

theorem length_newline (depth : Nat) : (newline depth).length = 2 * depth + 1 := by
  simp [newline]

theorem return_not_mem_newline (depth : Nat) : '\r' ∉ newline depth := by
  simp [newline]

theorem return_not_mem_joined {sep : List Char} {ps : List (List Char)} (hsep : '\r' ∉ sep)
    (h : ∀ p ∈ ps, '\r' ∉ p) : '\r' ∉ Value.joined sep ps := by
  induction ps with
  | nil => exact List.not_mem_nil
  | cons p ps ih =>
    obtain ⟨hp, hps⟩ := List.forall_mem_cons.mp h
    cases ps with
    | nil => exact hp
    | cons q qs =>
      rw [Value.joined, List.mem_append, List.mem_append, not_or, not_or]
      exact ⟨⟨hp, hsep⟩, ih hps⟩

theorem return_not_mem_block {opening closing : Char} (hopening : opening ≠ '\r')
    (hclosing : closing ≠ '\r') (depth : Nat) {ps : List (List Char)}
    (h : ∀ p ∈ ps, '\r' ∉ p) : '\r' ∉ block opening closing depth ps := by
  have hnewline := return_not_mem_newline
  have hsep : '\r' ∉ ',' :: newline (depth + 1) := by simp [hnewline]
  have hjoined := return_not_mem_joined hsep h
  simp [block, hnewline, hjoined, hopening.symm, hclosing.symm]

/-- The blank in front of the first piece is skipped. -/
theorem block_append (opening closing : Char) (depth : Nat) (ps : List (List Char))
    (rest : List Char) :
    block opening closing depth ps ++ rest =
      opening :: (newline (depth + 1) ++ (Value.joined (',' :: newline (depth + 1)) ps ++
        (newline depth ++ closing :: rest))) := by
  simp [block]

theorem length_block (opening closing : Char) (depth : Nat) (ps : List (List Char)) :
    (Value.joined (',' :: newline (depth + 1)) ps).length + 3 <
      (block opening closing depth ps).length := by
  simp only [block, List.length_append, List.length_cons, List.length_nil, length_newline]
  omega

theorem written_list {xs : List Value} {ps : List (List Char)} (h : List.Forall₂ Written xs ps)
    (hne : xs ≠ []) (depth : Nat) : Written (.list xs) (block '[' ']' depth ps) := by
  refine ⟨⟨'[', _, rfl, by decide⟩, ?_, ?_⟩
  · refine return_not_mem_block (by decide) (by decide) depth ?_
    intro p hp
    obtain ⟨x, _, hx⟩ := exists_of_forall₂_of_mem h hp
    exact hx.lines
  · intro rest fuel hrest hfuel
    have hlength := length_block '[' ']' depth ps
    obtain ⟨fuel, rfl⟩ : ∃ k, fuel = k + 1 := ⟨fuel - 1, by omega⟩
    have hread : elements fuel _ = _ := elements_joined (depth + 1) depth rest h hne (by omega)
    cases h with
    | nil => exact absurd rfl hne
    | @cons x p xs ps hx hxs =>
      obtain ⟨more, hmore⟩ := joined_cons (',' :: newline (depth + 1)) p ps
      rw [hmore, List.append_assoc] at hread
      have hopens := hx.opens.append (more ++ (newline depth ++ ']' :: rest))
      rw [block_append, hmore, List.append_assoc, value_array, skipSpace_newline, hopens.skipSpace,
        hread]
      · rfl
      · rwa [skipSpace_newline, hopens.skipSpace]

theorem written_map {kvs : Value.Entries} {ps : List (List Char)}
    (h : List.Forall₂ WrittenEntry kvs ps) (hne : kvs ≠ [])
    (hdistinct : Value.hasDistinctNames kvs = true) (depth : Nat) :
    Written (.map kvs) (block '\x7b' '\x7d' depth ps) := by
  refine ⟨⟨'\x7b', _, rfl, by decide⟩, ?_, ?_⟩
  · refine return_not_mem_block (by decide) (by decide) depth ?_
    intro p hp
    obtain ⟨kv, _, name, s, _, rfl, hs⟩ := exists_of_forall₂_of_mem h hp
    simp [return_not_mem_quote, hs.lines]
  · intro rest fuel hrest hfuel
    have hlength := length_block '\x7b' '\x7d' depth ps
    obtain ⟨fuel, rfl⟩ : ∃ k, fuel = k + 1 := ⟨fuel - 1, by omega⟩
    have hread : members fuel _ = _ := members_joined (depth + 1) depth rest h hne (by omega)
    cases h with
    | nil => exact absurd rfl hne
    | @cons kv p kvs ps hkv hkvs =>
      obtain ⟨more, hmore⟩ := joined_cons (',' :: newline (depth + 1)) p ps
      obtain ⟨cs, rfl⟩ := hkv.starts
      rw [hmore, List.cons_append, List.cons_append] at hread
      rw [block_append, hmore, List.cons_append, List.cons_append, value_object, hread]
      · simp only [Except.map, Value.ofPairs_of_distinct hdistinct]
      · rw [skipSpace_newline, skipSpace_of_not rfl]

end Blocks

section Scalars

theorem opens_of_isDigit {c : Char} (h : isDigit c = true) : opens c = true := by
  rw [opens_eq_true]
  refine ⟨?_, ?_, ?_⟩
  · cases hspace : isSpace c with
    | false => rfl
    | true =>
      simp only [isSpace, Bool.or_eq_true, decide_eq_true_eq] at hspace
      rcases hspace with ((rfl | rfl) | rfl) | rfl <;> cases h
  · rintro rfl
    cases h
  · rintro rfl
    cases h

theorem opens_of_startsNumber {cs : List Char} (h : StartsNumber cs) : Opens cs := by
  obtain ⟨c, r, hdigit, rfl | rfl⟩ := h
  · exact ⟨c, r, rfl, opens_of_isDigit hdigit⟩
  · exact ⟨'-', c :: r, rfl, by decide⟩

theorem written_number {s : List Char} {v : Value} (h : number s = .ok (v, []))
    (hlines : '\r' ∉ s) : Written v s := by
  have hstarts := startsNumber_of_number h
  refine ⟨opens_of_startsNumber hstarts, hlines, ?_⟩
  intro rest fuel hrest hfuel
  have hpos := (opens_of_startsNumber hstarts).pos
  obtain ⟨fuel, rfl⟩ : ∃ k, fuel = k + 1 := ⟨fuel - 1, by omega⟩
  exact value_of_number h hrest fuel

theorem written_int {i : Int} (depth : Nat) (h : (Value.int i).isRegular = true) :
    ∃ s, writeAt depth (.int i) = .ok s ∧ Written (.int i) s := by
  rw [Value.isRegular] at h
  refine ⟨intText i, ?_, written_number (number_intText h) (return_not_mem_intText i)⟩
  rw [writeAt, integerText, if_pos h]

/-- A text without free parts is read by its first alternative. -/
theorem written_word {v : Value} {s : List Char} (hopens : Opens s) (hlines : '\r' ∉ s)
    (h : ∀ rest fuel, value (fuel + 1) (s ++ rest) = .ok (v, rest)) : Written v s := by
  refine ⟨hopens, hlines, ?_⟩
  intro rest fuel _ hfuel
  have hpos := hopens.pos
  obtain ⟨fuel, rfl⟩ : ∃ k, fuel = k + 1 := ⟨fuel - 1, by omega⟩
  exact h rest fuel

theorem written_float {x : Double} (h : x ≠ .nan → readsBack x = true) :
    Written (.float x) (floatText x) := by
  cases x with
  | nan => exact written_word ⟨'N', _, rfl, by decide⟩ (by decide) fun _ _ => rfl
  | infinite negative =>
    cases negative with
    | false => exact written_word ⟨'I', _, rfl, by decide⟩ (by decide) fun _ _ => rfl
    | true => exact written_word ⟨'-', _, rfl, by decide⟩ (by decide) fun _ _ => rfl
  | finite negative m e =>
    exact written_number (number_of_readsBack (h nofun)) (return_not_mem_floatText _)

theorem written_str (s : String) : Written (.str s) (quote s.toList) := by
  refine ⟨⟨'"', _, rfl, by decide⟩, return_not_mem_quote _, ?_⟩
  intro rest fuel _ hfuel
  obtain ⟨fuel, rfl⟩ : ∃ k, fuel = k + 1 := by
    refine ⟨fuel - 1, ?_⟩
    simp only [quote, List.length_append, List.length_cons] at hfuel
    omega
  have htext : quote s.toList ++ rest = '"' :: (s.toList.flatMap escapeChar ++ '"' :: rest) := by
    simp [quote]
  rw [htext, value, stringBody_escaped, String.ofList_toList]
  rfl

theorem written_null : Written .null "null".toList :=
  written_word ⟨'n', _, rfl, by decide⟩ (by decide) fun _ _ => rfl

theorem written_bool (b : Bool) :
    Written (.bool b) (if b then "true".toList else "false".toList) := by
  cases b with
  | false => exact written_word ⟨'f', _, rfl, by decide⟩ (by decide) fun _ _ => rfl
  | true => exact written_word ⟨'t', _, rfl, by decide⟩ (by decide) fun _ _ => rfl

theorem written_emptyList : Written (.list []) ['[', ']'] :=
  written_word ⟨'[', _, rfl, by decide⟩ (by decide) fun _ _ => rfl

theorem written_emptyMap : Written (.map []) ['\x7b', '\x7d'] :=
  written_word ⟨'\x7b', _, rfl, by decide⟩ (by decide) fun _ _ => rfl

end Scalars

def AllReadBack (xs : List Double) : Prop := ∀ x ∈ xs, x ≠ .nan → readsBack x = true

instance (xs : List Double) : Decidable (AllReadBack xs) :=
  inferInstanceAs (Decidable (∀ x ∈ xs, x ≠ .nan → readsBack x = true))

theorem allReadBack_append {xs ys : List Double} :
    AllReadBack (xs ++ ys) ↔ AllReadBack xs ∧ AllReadBack ys := List.forall_mem_append

mutual

theorem written_of_regular : ∀ (v : Value) (depth : Nat), v.isRegular = true →
    AllReadBack v.floats → ∃ s, writeAt depth v = .ok s ∧ Written v s
  | .null, _ => fun _ _ => ⟨_, rfl, written_null⟩
  | .bool b, _ => fun _ _ => ⟨_, rfl, written_bool b⟩
  | .int i, depth => fun h _ => written_int depth h
  | .float x, _ => fun _ hfloats => ⟨_, rfl, written_float (hfloats x List.mem_cons_self)⟩
  | .str s, _ => fun _ _ => ⟨_, rfl, written_str s⟩
  | .list [], _ => fun _ _ => ⟨_, rfl, written_emptyList⟩
  | .list (x :: xs), depth => fun h hfloats => by
    obtain ⟨ps, hps, hwritten⟩ := written_items (x :: xs) (depth + 1) h hfloats
    exact ⟨_, by rw [writeAt, hps]; rfl, written_list hwritten (List.cons_ne_nil x xs) depth⟩
  | .map [], _ => fun _ _ => ⟨_, rfl, written_emptyMap⟩
  | .map (kv :: kvs), depth => fun h hfloats => by
    rw [Value.isRegular, Bool.and_eq_true] at h
    obtain ⟨ps, hps, hwritten⟩ := written_entries (kv :: kvs) (depth + 1) h.1 h.2 hfloats
    exact ⟨_, by rw [writeAt, hps]; rfl,
      written_map hwritten (List.cons_ne_nil kv kvs) h.1 depth⟩
  | .bytes _, _ | .date _, _ | .moment _, _ | .tuple _, _ | .set _, _ | .again _, _ => nofun

theorem written_items : ∀ (xs : List Value) (depth : Nat), Value.allRegular xs = true →
    AllReadBack (Value.itemFloats xs) →
    ∃ ps, writeItems depth xs = .ok ps ∧ List.Forall₂ Written xs ps
  | [], _ => fun _ _ => ⟨[], rfl, .nil⟩
  | x :: xs, depth => fun h hfloats => by
    rw [Value.allRegular, Bool.and_eq_true] at h
    rw [Value.itemFloats, allReadBack_append] at hfloats
    obtain ⟨s, hs, hx⟩ := written_of_regular x depth h.1 hfloats.1
    obtain ⟨ps, hps, hxs⟩ := written_items xs depth h.2 hfloats.2
    exact ⟨s :: ps, by rw [writeItems, hs, hps]; rfl, .cons hx hxs⟩

theorem written_entries : ∀ (kvs : List (Value × Value)) (depth : Nat),
    Value.hasDistinctNames kvs = true → Value.allEntriesRegular kvs = true →
    AllReadBack (Value.entryFloats kvs) →
    ∃ ps, writeEntries depth kvs = .ok ps ∧ List.Forall₂ WrittenEntry kvs ps
  | [], _ => fun _ _ _ => ⟨[], rfl, .nil⟩
  | (k, v) :: kvs, depth => fun hdistinct h hfloats => by
    rw [Value.allEntriesRegular, Bool.and_eq_true] at h
    rw [Value.entryFloats, allReadBack_append] at hfloats
    obtain ⟨name, rfl, _, hdistinct⟩ := Value.hasDistinctNames_cons hdistinct
    obtain ⟨s, hs, hv⟩ := written_of_regular v depth h.1 hfloats.1
    obtain ⟨ps, hps, hkvs⟩ := written_entries kvs depth hdistinct h.2 hfloats.2
    exact ⟨_ :: ps, by rw [writeEntries, hs, hps]; rfl, .cons ⟨name, s, rfl, rfl, hv⟩ hkvs⟩

end

theorem Written.parse {v : Value} {s tail : List Char} (h : Written v s)
    (htail : tail = [] ∨ tail = ['\n']) : Json.parse (s ++ tail) = .ok v := by
  have hdelimits : Delimits tail := by
    rcases htail with rfl | rfl
    · trivial
    · exact Or.inr rfl
  have hblank : Json.skipSpace tail = [] := by
    rcases htail with rfl | rfl <;> rfl
  have hmark : ¬(s ++ tail).head? = some '\uFEFF' := by
    obtain ⟨c, cs, rfl, hopens⟩ := h.starts
    simpa using (opens_eq_true.mp hopens).2.2
  have hlength : s.length ≤ (s ++ tail).length + 1 := by
    rw [List.length_append]
    omega
  rw [Json.parse, if_neg hmark, h.skipSpace, h.reads tail _ hdelimits hlength]
  simp only [hblank]

end Json

namespace Formatter

theorem jsonText_of_regular {v : Value} (h : v.isRegular = true)
    (hfloats : Json.AllReadBack v.floats) : ∃ s, jsonText v = .ok s ∧ Json.Written v s := by
  obtain ⟨s, hs, hwritten⟩ := Json.written_of_regular v 0 h hfloats
  refine ⟨s, ?_, hwritten⟩
  rw [jsonText, Json.write, hs]

theorem jsonText_of_plain {v : Value} (h : v.isPlain = true) :
    ∃ s, jsonText v = .ok s ∧ Json.Written v s := by
  rw [Value.isPlain_eq, Bool.and_eq_true, List.all_eq_true] at h
  exact jsonText_of_regular h.1 fun x hx _ => h.2 x hx

/-- JSON that was just written is not rejected, and is written in the same way again. -/
theorem json_jsonText {v : Value} {s : List Char} (h : v.isPlain = true)
    (hs : jsonText v = .ok s) : json s = ⟨.ok (s ++ ['\n']), []⟩ := by
  obtain ⟨t, ht, hwritten⟩ := jsonText_of_plain h
  obtain rfl : s = t := Except.ok.inj (hs.symm.trans ht)
  have hparse := hwritten.parse (Or.inl rfl)
  rw [List.append_nil] at hparse
  rw [json, formatJson, hparse]
  simp only [hs, Except.map, Traced.lift]

end Formatter
end ClientCompiler
