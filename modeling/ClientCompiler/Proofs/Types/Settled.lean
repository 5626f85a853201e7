import ClientCompiler.Proofs.Types.Printing

/-!
Settled texts. Where a table renames no name that it gives, a spelling is read once and for all: the
names of the type are renamed no more, and so the canonical text is read as the same text again.
-/

namespace ClientCompiler

namespace TypeTable

def renamed (table : TypeTable) : List String := table.renames.map Prod.fst

/-- What a table gives for a name is a name of the grammar, and it is not renamed in turn. -/
structure Settles (table : TypeTable) : Prop where
  named : ∀ r ∈ table.renames, Spelling.IsName r.2.toList
  once : ∀ r ∈ table.renames, r.2 ∉ table.renamed
  any : "any" ∉ table.renamed
  array : "array" ∉ table.renamed

instance (table : TypeTable) : Decidable table.Settles :=
  decidable_of_iff ((∀ r ∈ table.renames, Spelling.IsName r.2.toList) ∧
      (∀ r ∈ table.renames, r.2 ∉ table.renamed) ∧ "any" ∉ table.renamed ∧ "array" ∉ table.renamed)
    ⟨fun h => ⟨h.1, h.2.1, h.2.2.1, h.2.2.2⟩, fun h => ⟨h.named, h.once, h.any, h.array⟩⟩

theorem settles_typeScript : typeScript.Settles := by decide

variable {table : TypeTable}

theorem canonicalName_of_not_renamed {n : String} (h : n ∉ table.renamed) :
    table.canonicalName n = n := by
  have hlookup : table.renames.lookup n = none := by
    rw [List.lookup_eq_none_iff]
    intro r hr
    have hne : n ≠ r.1 := fun heq => h (heq ▸ List.mem_map_of_mem hr)
    simpa using hne
  rw [canonicalName, hlookup, Option.getD_none]

theorem canonicalName_cases (table : TypeTable) (n : String) :
    table.canonicalName n = n ∧ n ∉ table.renamed ∨
      ∃ r ∈ table.renames, table.canonicalName n = r.2 := by
  by_cases hmem : n ∈ table.renamed
  · obtain ⟨r, hr, rfl⟩ := List.mem_map.mp hmem
    cases hlookup : table.renames.lookup r.1 with
    | none => simpa using List.lookup_eq_none_iff.mp hlookup r hr
    | some m =>
      obtain ⟨before, after, heq, -⟩ := List.lookup_eq_some_iff.mp hlookup
      refine Or.inr ⟨(r.1, m), by rw [heq]; simp, ?_⟩
      rw [canonicalName, hlookup, Option.getD_some]
  · exact Or.inl ⟨canonicalName_of_not_renamed hmem, hmem⟩

namespace Settles

variable (h : table.Settles)

include h

theorem canonicalName_not_renamed (n : String) : table.canonicalName n ∉ table.renamed := by
  rcases table.canonicalName_cases n with ⟨hfixed, hn⟩ | ⟨r, hr, hname⟩
  · rw [hfixed]
    exact hn
  · rw [hname]
    exact h.once r hr

theorem isName_canonicalName {n : String} (hn : Spelling.IsName n.toList) :
    Spelling.IsName (table.canonicalName n).toList := by
  rcases table.canonicalName_cases n with ⟨hfixed, -⟩ | ⟨r, hr, hname⟩
  · rw [hfixed]
    exact hn
  · rw [hname]
    exact h.named r hr

theorem denotedName (n : Spelling.Name) :
    Spelling.IsName (Spelling.Spelled.denotedName table n).toList ∧
      Spelling.Spelled.denotedName table n ∉ table.renamed := by
  have hname : Spelling.IsName (table.canonicalName (String.ofList n.val)).toList :=
    h.isName_canonicalName (by rw [String.toList_ofList]; exact n.property)
  have hne : table.canonicalName (String.ofList n.val) ≠ "" := by
    intro hempty
    rw [hempty] at hname
    exact hname.ne_nil rfl
  rw [Spelling.Spelled.denotedName, if_neg hne]
  exact ⟨hname, h.canonicalName_not_renamed _⟩

end Settles
end TypeTable

namespace TypeNode

open Spelling

variable {table : TypeTable}

theorem mem_subtrees_node {n : String} {gs : List TypeNode} {u : TypeNode} :
    u ∈ (node n gs).subtrees ↔ u = node n gs ∨ ∃ g ∈ gs, u ∈ g.subtrees := by
  rw [subtrees, List.mem_cons, mem_subtreesAll]

theorem spellable_node {n : String} {gs : List TypeNode}
    (hroot : n ≠ "array" → IsName n.toList ∧ table.canonicalName n = n)
    (hargs : ∀ g ∈ gs, Spellable table g) : Spellable table (node n gs) := by
  intro u hu
  rcases mem_subtrees_node.mp hu with rfl | ⟨g, hg, hu⟩
  · exact hroot
  · exact hargs g hg u hu

theorem Spellable.arrayOf {t : TypeNode} (h : Spellable table t) : Spellable table (arrayOf t) :=
  spellable_node (absurd rfl) (List.forall_mem_singleton.mpr h)

theorem spellable_any (h : table.Settles) : Spellable table any :=
  spellable_node (fun _ => ⟨by decide, TypeTable.canonicalName_of_not_renamed h.any⟩) nofun

mutual

theorem spellable_norm (h : table.Settles) : ∀ t : TypeNode, Spellable table t →
    Spellable table t.norm
  | node n [], ht => by
    by_cases hn : n = "array"
    · subst hn
      rw [norm_array_nil]
      exact (spellable_any h).arrayOf
    · rw [norm_of_ne_array hn, normAll]
      exact ht
  | node n (g :: gs), ht => by
    by_cases hn : n = "array"
    · subst hn
      rw [norm_array_cons]
      exact (spellable_norm h g (ht.child g List.mem_cons_self)).arrayOf
    · rw [norm_of_ne_array hn]
      exact spellable_node (fun _ => ht.root hn) (spellable_normAll h (g :: gs) ht.child)

theorem spellable_normAll (h : table.Settles) : ∀ gs : List TypeNode,
    (∀ g ∈ gs, Spellable table g) → ∀ g ∈ normAll gs, Spellable table g
  | [], _ => nofun
  | g :: gs, hgs => by
    rw [normAll, List.forall_mem_cons]
    rw [List.forall_mem_cons] at hgs
    exact ⟨spellable_norm h g hgs.1, spellable_normAll h gs hgs.2⟩

end

mutual

theorem exists_subtree_of_mem_names : ∀ (t : TypeNode) {n : String}, n ∈ t.names →
    ∃ u ∈ t.subtrees, u.name = n
  | node m gs, n, h => by
    rw [names, List.mem_cons] at h
    rcases h with rfl | h
    · exact ⟨node n gs, mem_subtrees_node.mpr (Or.inl rfl), rfl⟩
    · obtain ⟨u, hu, hname⟩ := exists_subtree_of_mem_namesAll gs h
      exact ⟨u, mem_subtrees_node.mpr (Or.inr (mem_subtreesAll.mp hu)), hname⟩

theorem exists_subtree_of_mem_namesAll : ∀ (gs : List TypeNode) {n : String}, n ∈ namesAll gs →
    ∃ u ∈ subtreesAll gs, u.name = n
  | g :: gs, n, h => by
    rw [namesAll, List.mem_append] at h
    rw [subtreesAll]
    rcases h with h | h
    · obtain ⟨u, hu, hname⟩ := exists_subtree_of_mem_names g h
      exact ⟨u, List.mem_append_left _ hu, hname⟩
    · obtain ⟨u, hu, hname⟩ := exists_subtree_of_mem_namesAll gs h
      exact ⟨u, List.mem_append_right _ hu, hname⟩

end

theorem Spellable.not_renamed (h : table.Settles) {t : TypeNode} (ht : Spellable table t)
    {n : String} (hn : n ∈ t.names) : n ∉ table.renamed := by
  obtain ⟨u, hu, rfl⟩ := exists_subtree_of_mem_names t hn
  by_cases harray : u.name = "array"
  · rw [harray]
    exact h.array
  · rw [← (ht u hu harray).2]
    exact h.canonicalName_not_renamed u.name

end TypeNode

namespace Spelling.Spelled

variable {table : TypeTable}

mutual

theorem spellable_denote (h : table.Settles) : ∀ t : Spelled,
    TypeNode.Spellable table (t.denote table)
  | .name n => by
    rw [denote]
    exact TypeNode.spellable_node (fun _ => ⟨(h.denotedName n).1,
      TypeTable.canonicalName_of_not_renamed (h.denotedName n).2⟩) nofun
  | .generic n _ _ _ first rest => by
    rw [denote]
    refine TypeNode.spellable_node (fun _ => ⟨(h.denotedName n).1,
      TypeTable.canonicalName_of_not_renamed (h.denotedName n).2⟩) ?_
    rw [List.forall_mem_cons]
    exact ⟨spellable_denote h first, spellable_denoteAll h rest⟩
  | .array element => by
    rw [denote]
    exact (spellable_denote h element).arrayOf
  | .padded _ inner _ => by
    rw [denote]
    exact spellable_denote h inner

theorem spellable_denoteAll (h : table.Settles) : ∀ ts : List Spelled,
    ∀ g ∈ denoteAll table ts, TypeNode.Spellable table g
  | [] => nofun
  | t :: ts => by
    rw [denoteAll, List.forall_mem_cons]
    exact ⟨spellable_denote h t, spellable_denoteAll h ts⟩

end

end Spelling.Spelled

namespace Spelling

/-- A text that is blank or spells a type. -/
def Legible (s : String) : Prop := Text.AllBlank s.toList ∨ ∃ t : Spelled, t.text = s.toList

theorem legible_of_isName {s : String} (h : IsName s.toList) : Legible s :=
  Or.inr ⟨.name ⟨s.toList, h⟩, by rw [Spelled.text]⟩

/-- Reading a text and writing it out changes nothing, and no name that is read in it is renamed. -/
structure Settled (table : TypeTable) (s : String) : Prop where
  fixed : canonicalSpelling table s = s
  names : ∀ n ∈ (TypeNode.ofString table s).names, n ∉ table.renamed

variable {table : TypeTable} (h : table.Settles)

include h

theorem spellable_ofString {s : String} (hs : Legible s) :
    TypeNode.Spellable table (TypeNode.ofString table s) := by
  rcases hs with hblank | ⟨t, ht⟩
  · have hany : TypeNode.ofString table s = TypeNode.any := by
      have hread : TypeNode.ofChars table (s.toList ++ [] ++ []) = TypeNode.ofChars table [] :=
        ofChars_surrounded hblank (fun _ hc => absurd hc List.not_mem_nil) []
      rw [List.append_nil, List.append_nil] at hread
      exact hread
    rw [hany]
    exact TypeNode.spellable_any h
  · rw [TypeNode.ofString, ← ht, Spelled.ofChars_text]
    exact Spelled.spellable_denote h t

/-- The text of a spellable type is settled: what is read in it is the normal form, and that has the
same text. -/
theorem settled_text {t : TypeNode} (ht : TypeNode.Spellable table t) : Settled table t.text := by
  have hread : TypeNode.ofString table t.text = t.norm :=
    TypeNode.ofString_text (TypeTable.canonicalName_of_not_renamed h.any) ht
  refine ⟨?_, fun n hn => ?_⟩
  · rw [canonicalSpelling, hread, TypeNode.text_norm]
  · rw [hread] at hn
    exact (TypeNode.spellable_norm h t ht).not_renamed h hn

end Spelling
end ClientCompiler
