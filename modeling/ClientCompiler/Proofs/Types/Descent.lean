import ClientCompiler.Proofs.Types.Renaming
import ClientCompiler.Proofs.Types.Settled
import Mathlib.Data.List.Forall2

/-!
The descent of reading into the texts inside a text. Every text inside is shorter, and together
they hold fewer characters than the text around them, so that reading any text ends and gives no
more nodes than one for each character and one. The names are cut before the first bracket, trimmed
and renamed at every depth.
-/

namespace ClientCompiler

/-- A name as a table leaves it in a type. -/
structure TypeTable.Normal (table : TypeTable) (n : String) : Prop where
  ne_empty : n ≠ ""
  trimmed : Text.trim n.toList = n.toList
  plain : ∀ c ∈ n.toList, c ≠ '<' ∧ c ≠ '«' ∧ c ≠ '»'
  not_renamed : n ∉ table.renamed

namespace Spelling

/-- The texts that the reading of a text goes into, in order. -/
def inside (s : List Char) : List (List Char) :=
  let t := (Text.trim s).map plainBracket
  match beforeArraySuffix? t with
  | some element => [element]
  | none => ((nameAndSegment t).2.map arguments).getD []

def rootName (table : TypeTable) (s : List Char) : String :=
  let t := (Text.trim s).map plainBracket
  if t = [] then "any"
  else if (beforeArraySuffix? t).isSome then "array"
  else nodeName table (nameAndSegment t).1

/-- Reading as a finite tree of readings, one for each text inside. -/
inductive Reads (table : TypeTable) : List Char → TypeNode → Prop where
  | node {s : List Char} {ts : List TypeNode} (h : List.Forall₂ (Reads table) (inside s) ts) :
      Reads table s (.node (rootName table s) ts)

variable {table : TypeTable}

theorem ofChars_node (s : List Char) :
    TypeNode.ofChars table s =
      .node (rootName table s) ((inside s).map (TypeNode.ofChars table)) := by
  rw [ofChars_eq]
  unfold readStep rootName inside
  cases (Text.trim s).map plainBracket with
  | nil => rfl
  | cons c t =>
    dsimp only
    unfold readTrimmed
    rw [if_neg (List.cons_ne_nil c t)]
    cases beforeArraySuffix? (c :: t) with
    | some element => rfl
    | none => rfl

/-! ## Lengths -/

def room : List (List Char) → Nat
  | [] => 0
  | s :: ss => s.length + 1 + room ss

@[simp] theorem room_nil : room [] = 0 := rfl

@[simp] theorem room_cons (s : List Char) (ss : List (List Char)) :
    room (s :: ss) = s.length + 1 + room ss := rfl

theorem length_lt_room {s : List Char} {ss : List (List Char)} (h : s ∈ ss) :
    s.length < room ss := by
  induction ss with
  | nil => cases h
  | cons r ss ih =>
    rw [room_cons]
    rcases List.mem_cons.mp h with rfl | h
    · omega
    · have := ih h
      omega

theorem room_consHead (c : Char) {ps : List (List Char)} (h : ps ≠ []) :
    room (consHead c ps) = room ps + 1 := by
  cases ps with
  | nil => exact absurd rfl h
  | cons p ps =>
    simp only [consHead, room_cons, List.length_cons]
    omega

/-- Every separating comma is paid for by the piece after it. -/
theorem room_pieces (d : Nat) (s : List Char) : room (pieces d s) = s.length + 1 := by
  induction s generalizing d with
  | nil => rfl
  | cons c s ih =>
    by_cases hc : c = ',' ∧ d = 0
    · obtain ⟨rfl, rfl⟩ := hc
      rw [pieces_comma, room_cons, ih, List.length_nil, List.length_cons]
      omega
    · rw [pieces_cons_of_not_separator hc, room_consHead c (pieces_ne_nil _ s), ih,
        List.length_cons]

theorem room_dropEmptyLast_le (ps : List (List Char)) : room (dropEmptyLast ps) ≤ room ps := by
  induction ps with
  | nil => exact Nat.le_refl _
  | cons p ps ih =>
    cases ps with
    | nil =>
      unfold dropEmptyLast
      split
      · exact Nat.zero_le _
      · exact Nat.le_refl _
    | cons q ps =>
      rw [dropEmptyLast, room_cons, room_cons p]
      omega

theorem room_map_trim_le (ps : List (List Char)) : room (ps.map Text.trim) ≤ room ps := by
  induction ps with
  | nil => exact Nat.le_refl _
  | cons p ps ih =>
    have hp := Text.length_trim_le p
    rw [List.map_cons, room_cons, room_cons p]
    omega

theorem room_arguments_le (segment : List Char) : room (arguments segment) ≤ segment.length + 1 := by
  have htrim := room_map_trim_le (dropEmptyLast (pieces 0 segment))
  have hdrop := room_dropEmptyLast_le (pieces 0 segment)
  rw [room_pieces] at hdrop
  exact htrim.trans hdrop

theorem room_inside_le (s : List Char) : room (inside s) ≤ s.length := by
  have ht : ((Text.trim s).map plainBracket).length ≤ s.length := by
    rw [List.length_map]
    exact Text.length_trim_le s
  unfold inside
  generalize (Text.trim s).map plainBracket = t at ht
  dsimp only
  cases he : beforeArraySuffix? t with
  | some element =>
    have hl := congrArg List.length (eq_append_of_beforeArraySuffix? he)
    rw [List.length_append] at hl
    simp only [List.length_cons, List.length_nil] at hl
    simp only [room_cons, room_nil]
    omega
  | none =>
    cases hs : (nameAndSegment t).2 with
    | none => exact Nat.zero_le _
    | some segment =>
      have hl := length_of_nameAndSegment hs
      have ha : room (arguments segment) ≤ segment.length + 1 := room_arguments_le segment
      simp only [Option.map_some, Option.getD_some]
      omega

theorem length_lt_of_mem_inside {s r : List Char} (h : r ∈ inside s) : r.length < s.length :=
  (length_lt_room h).trans_le (room_inside_le s)

/-! ## The end of reading -/

theorem eq_map_of_forall₂ {α β : Type} {R : α → β → Prop} {f : α → β} {xs : List α} {ys : List β}
    (h : List.Forall₂ R xs ys) (hf : ∀ x ∈ xs, ∀ y, R x y → y = f x) : ys = xs.map f := by
  induction h with
  | nil => rfl
  | cons hxy _ ih =>
    rw [List.map_cons, hf _ (List.mem_cons_self ..) _ hxy,
      ih fun x hx => hf x (List.mem_cons_of_mem _ hx)]

/-- The induction is on the length, which every text inside falls short of. -/
theorem reads_ofChars (s : List Char) : Reads table s (TypeNode.ofChars table s) := by
  induction hn : s.length using Nat.strong_induction_on generalizing s with
  | _ n ih =>
    rw [ofChars_node]
    apply Reads.node
    rw [List.forall₂_map_right_iff, List.forall₂_same]
    intro r hr
    exact ih r.length (hn ▸ length_lt_of_mem_inside hr) r rfl

theorem eq_of_reads {s : List Char} {t : TypeNode} (h : Reads table s t) :
    t = TypeNode.ofChars table s := by
  induction hn : s.length using Nat.strong_induction_on generalizing s t with
  | _ n ih =>
    cases h with
    | node h =>
      rw [ofChars_node, eq_map_of_forall₂ h]
      intro r hr u hu
      exact ih r.length (hn ▸ length_lt_of_mem_inside hr) hu rfl

theorem reads_iff {s : List Char} {t : TypeNode} :
    Reads table s t ↔ t = TypeNode.ofChars table s := by
  constructor
  · exact eq_of_reads
  · rintro rfl
    exact reads_ofChars s

/-! ## Nodes -/

theorem length_subtreesAll_le {f : List Char → TypeNode} {ss : List (List Char)}
    (h : ∀ s ∈ ss, (f s).subtrees.length ≤ s.length + 1) :
    (TypeNode.subtreesAll (ss.map f)).length ≤ room ss := by
  induction ss with
  | nil => exact Nat.le_refl _
  | cons s ss ih =>
    have hs := h s (List.mem_cons_self ..)
    have hss := ih fun r hr => h r (List.mem_cons_of_mem s hr)
    rw [List.map_cons, TypeNode.subtreesAll, List.length_append, room_cons]
    omega

theorem length_subtrees_ofChars_le (s : List Char) :
    (TypeNode.ofChars table s).subtrees.length ≤ s.length + 1 := by
  induction hn : s.length using Nat.strong_induction_on generalizing s with
  | _ n ih =>
    have hinside : ∀ r ∈ inside s, (TypeNode.ofChars table r).subtrees.length ≤ r.length + 1 := by
      intro r hr
      exact ih r.length (hn ▸ length_lt_of_mem_inside hr) r rfl
    have hall := length_subtreesAll_le hinside
    have hroom := room_inside_le s
    rw [ofChars_node, TypeNode.subtrees, List.length_cons]
    omega

/-! ## Names -/

theorem nameAndSegment_fst (t : List Char) :
    (nameAndSegment t).1 = t.takeWhile fun c => decide (c ≠ '<') := by
  unfold nameAndSegment
  split
  · rfl
  · next h =>
    have htake := List.takeWhile_append_dropWhile (p := fun c => decide (c ≠ '<')) (l := t)
    rw [h, List.append_nil] at htake
    exact htake.symm

theorem plainBracket_ne_guillemet (c : Char) : plainBracket c ≠ '«' ∧ plainBracket c ≠ '»' := by
  unfold plainBracket
  grind

theorem plain_of_mem_name {s : List Char} {c : Char}
    (h : c ∈ (nameAndSegment (s.map plainBracket)).1) : c ≠ '<' ∧ c ≠ '«' ∧ c ≠ '»' := by
  rw [nameAndSegment_fst] at h
  have hangle : c ≠ '<' := by simpa using List.mem_takeWhile_imp h
  obtain ⟨e, -, rfl⟩ := List.mem_map.mp ((List.takeWhile_prefix _).subset h)
  exact ⟨hangle, plainBracket_ne_guillemet e⟩

theorem normal_of_isName {n : String} (h : IsName n.toList) (hn : n ∉ table.renamed) :
    table.Normal n where
  ne_empty := by
    rintro rfl
    exact h.ne_nil rfl
  trimmed := h.trimmed
  plain c hc := ⟨(h.not_special c hc).1, (h.not_special c hc).2.2.1, (h.not_special c hc).2.2.2.1⟩
  not_renamed := hn

section

variable (h : table.Settles)

include h

theorem normal_nodeName {name : List Char} (hplain : ∀ c ∈ name, c ≠ '<' ∧ c ≠ '«' ∧ c ≠ '»') :
    table.Normal (nodeName table name) := by
  rw [nodeName_eq_nameFor, TypeTable.nameFor]
  split
  · exact normal_of_isName (by decide) h.any
  · next hne =>
    rcases table.canonicalName_cases (String.ofList (Text.trim name)) with ⟨hfixed, hn⟩ | ⟨r, hr, hr2⟩
    · rw [hfixed] at hne ⊢
      refine ⟨hne, ?_, ?_, hn⟩
      · rw [String.toList_ofList, Text.trim_trim]
      · intro c hc
        rw [String.toList_ofList] at hc
        exact hplain c (Text.mem_of_mem_trim hc)
    · rw [hr2]
      exact normal_of_isName (h.named r hr) (h.once r hr)

theorem normal_rootName (s : List Char) : table.Normal (rootName table s) := by
  unfold rootName
  dsimp only
  split
  · exact normal_of_isName (by decide) h.any
  · split
    · exact normal_of_isName (by decide) h.array
    · apply normal_nodeName h
      intro c hc
      exact plain_of_mem_name hc

theorem normal_of_mem_subtrees (s : List Char) {u : TypeNode}
    (hu : u ∈ (TypeNode.ofChars table s).subtrees) : table.Normal u.name := by
  induction hn : s.length using Nat.strong_induction_on generalizing s with
  | _ n ih =>
    rw [ofChars_node, TypeNode.mem_subtrees_node] at hu
    rcases hu with rfl | ⟨g, hg, hu⟩
    · exact normal_rootName h s
    · obtain ⟨r, hr, rfl⟩ := List.mem_map.mp hg
      exact ih r.length (hn ▸ length_lt_of_mem_inside hr) r hu rfl

end

end Spelling

open Spelling

/-- Every text, malformed or not, is read to its end: the texts inside it are shorter, they alone
decide the tree below the root, the nodes are at most one more than the characters, and no name that
is left in the tree is renamed any more. -/
theorem TypeNode.ofString_wellFormed (s : String) :
    (∀ r ∈ inside s.toList, r.length < s.length) ∧
      (∀ table t, Reads table s.toList t ↔ t = ofString table s) ∧
      (∀ table, (ofString table s).subtrees.length ≤ s.length + 1) ∧
      ∀ u ∈ (ofString .typeScript s).subtrees, TypeTable.typeScript.Normal u.name := by
  refine ⟨?_, ?_, ?_, ?_⟩
  · intro r hr
    rw [← String.length_toList]
    exact length_lt_of_mem_inside hr
  · intro table t
    exact reads_iff
  · intro table
    rw [← String.length_toList]
    exact length_subtrees_ofChars_le s.toList
  · intro u hu
    exact normal_of_mem_subtrees TypeTable.settles_typeScript s.toList hu

/-- Brackets that are opened twice and closed once, an empty argument, and text behind them. -/
theorem TypeNode.ofString_wellFormed_unbalanced :
    let s := "List<int, ,Map«<Void>,» x"
    "int".toList ∈ inside s.toList ∧ "int".toList.length < s.length ∧
      Reads .typeScript s.toList (ofString .typeScript s) ∧
      (ofString .typeScript s).subtrees.length ≤ s.length + 1 ∧
      node "number" [] ∈ (ofString .typeScript s).subtrees ∧ TypeTable.typeScript.Normal "number" := by
  intro s
  obtain ⟨hshorter, hreads, hnodes, hnormal⟩ := TypeNode.ofString_wellFormed s
  have hinside : "int".toList ∈ inside s.toList := by decide +kernel
  have hnumber : node "number" [] ∈ (ofString .typeScript s).subtrees := by decide +kernel
  exact ⟨hinside, hshorter _ hinside, (hreads _ _).mpr rfl, hnodes _, hnumber, hnormal _ hnumber⟩

end ClientCompiler
