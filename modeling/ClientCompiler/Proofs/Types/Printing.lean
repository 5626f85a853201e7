import ClientCompiler.Proofs.Types.Grammar

/-!
Reading back the canonical text of a type. The text of an array shows its first argument only, or
`any` where there is none, so that reading gives the tree with every array cut down to that one
argument; nothing else is lost.
-/

namespace ClientCompiler.TypeNode

open Spelling

mutual

def subtrees : TypeNode → List TypeNode
  | node n gs => node n gs :: subtreesAll gs

def subtreesAll : List TypeNode → List TypeNode
  | [] => []
  | g :: gs => subtrees g ++ subtreesAll gs

end

/-- Every name is one of the grammar and stays what it is under the table, arrays apart. -/
def Spellable (table : TypeTable) (t : TypeNode) : Prop :=
  ∀ u ∈ t.subtrees, u.name ≠ "array" →
    IsName u.name.toList ∧ table.canonicalName u.name = u.name

instance (table : TypeTable) (t : TypeNode) : Decidable (t.Spellable table) :=
  inferInstanceAs (Decidable (∀ u ∈ t.subtrees, u.name ≠ "array" →
    IsName u.name.toList ∧ table.canonicalName u.name = u.name))

def OneElementArrays (t : TypeNode) : Prop :=
  ∀ u ∈ t.subtrees, u.name = "array" → u.generics.length = 1

instance (t : TypeNode) : Decidable t.OneElementArrays :=
  inferInstanceAs (Decidable (∀ u ∈ t.subtrees, u.name = "array" → u.generics.length = 1))

mutual

/-- Every array with its first argument alone, or with `any` if it has none. -/
def norm : TypeNode → TypeNode
  | node n gs =>
    if n = "array" then
      match gs with
      | [] => arrayOf any
      | g :: _ => arrayOf (norm g)
    else node n (normAll gs)

def normAll : List TypeNode → List TypeNode
  | [] => []
  | g :: gs => norm g :: normAll gs

end

theorem mem_subtreesAll {u : TypeNode} {gs : List TypeNode} :
    u ∈ subtreesAll gs ↔ ∃ g ∈ gs, u ∈ g.subtrees := by
  induction gs with
  | nil => simp [subtreesAll]
  | cons g gs ih => simp [subtreesAll, ih]

theorem Spellable.root {table : TypeTable} {n : String} {gs : List TypeNode}
    (h : Spellable table (node n gs)) (hn : n ≠ "array") :
    IsName n.toList ∧ table.canonicalName n = n :=
  h (node n gs) (by simp [subtrees]) hn

theorem Spellable.child {table : TypeTable} {n : String} {gs : List TypeNode}
    (h : Spellable table (node n gs)) : ∀ g ∈ gs, Spellable table g := by
  intro g hg u hu
  refine h u ?_
  rw [subtrees]
  exact List.mem_cons_of_mem _ (mem_subtreesAll.mpr ⟨g, hg, hu⟩)

theorem oneElementArrays_node {n : String} {gs : List TypeNode} :
    OneElementArrays (node n gs) ↔
      (n = "array" → gs.length = 1) ∧ ∀ g ∈ gs, OneElementArrays g := by
  unfold OneElementArrays
  constructor
  · intro h
    refine ⟨h (node n gs) (by simp [subtrees]), fun g hg u hu => h u ?_⟩
    rw [subtrees]
    exact List.mem_cons_of_mem _ (mem_subtreesAll.mpr ⟨g, hg, hu⟩)
  · rintro ⟨hr, hc⟩ u hu
    rw [subtrees] at hu
    rcases List.mem_cons.mp hu with rfl | hu
    · exact hr
    · obtain ⟨g, hg, hu⟩ := mem_subtreesAll.mp hu
      exact hc g hg u hu

theorem textTail_toList (gs : List TypeNode) :
    (textTail gs).toList = commaTail (gs.map fun g => g.text.toList) ++ ['>'] := by
  induction gs with
  | nil => simp [textTail, commaTail]
  | cons g gs ih => simp [textTail, ih, commaTail]

theorem text_array_nil : (node "array" []).text = "any[]" := by simp [text]

theorem text_array_cons (g : TypeNode) (gs : List TypeNode) :
    (node "array" (g :: gs)).text = g.text ++ "[]" := by simp [text]

theorem text_leaf {n : String} (hn : n ≠ "array") : (node n []).text = n := by simp [text, hn]

theorem text_generic {n : String} (hn : n ≠ "array") (g : TypeNode) (gs : List TypeNode) :
    (node n (g :: gs)).text = n ++ "<" ++ g.text ++ textTail gs := by simp [text, hn]

theorem norm_array_nil : (node "array" []).norm = arrayOf any := by simp [norm]

theorem norm_array_cons (g : TypeNode) (gs : List TypeNode) :
    (node "array" (g :: gs)).norm = arrayOf g.norm := by simp [norm]

theorem norm_of_ne_array {n : String} (hn : n ≠ "array") (gs : List TypeNode) :
    (node n gs).norm = node n (normAll gs) := by
  cases gs <;> simp [norm, normAll, hn]

theorem denotedName_of_fixed {table : TypeTable} {n : String} (hn : IsName n.toList)
    (hf : table.canonicalName n = n) : Spelled.denotedName table ⟨n.toList, hn⟩ = n := by
  have hne : n ≠ "" := fun h => hn.ne_nil (by simp [h])
  unfold Spelled.denotedName
  rw [String.ofList_toList, hf]
  simp [hne]

theorem ofString_of_fixed {table : TypeTable} {n : String} (hn : IsName n.toList)
    (hf : table.canonicalName n = n) : ofString table n = node n [] := by
  have hname := @nodeName_eq_denotedName table ⟨n.toList, hn⟩ ⟨[], by simp [Text.AllBlank]⟩
  rw [List.append_nil, denotedName_of_fixed hn hf] at hname
  unfold ofString
  rw [ofChars_name hn, hname]

mutual

/-- The canonical text of a spellable type is a spelling, and what it denotes is the normal form.
The arguments that an array does not show are dropped on both sides. -/
theorem exists_spelled {table : TypeTable} (hany : table.canonicalName "any" = "any") :
    ∀ t : TypeNode, Spellable table t →
      ∃ s : Spelled, s.text = t.text.toList ∧ s.denote table = t.norm
  | node n [], h => by
    by_cases hn : n = "array"
    · subst hn
      refine ⟨.array (.name ⟨"any".toList, by decide⟩), ?_, ?_⟩
      · rw [text_array_nil, Spelled.text, Spelled.text]
        rfl
      · rw [Spelled.denote, Spelled.denote, denotedName_of_fixed _ hany, norm_array_nil]
        rfl
    · obtain ⟨hname, hfix⟩ := h.root hn
      refine ⟨.name ⟨n.toList, hname⟩, ?_, ?_⟩
      · rw [Spelled.text, text_leaf hn]
      · rw [Spelled.denote, denotedName_of_fixed hname hfix, norm_of_ne_array hn, normAll]
  | node n (g :: gs), h => by
    obtain ⟨s, hs, hd⟩ := exists_spelled hany g (h.child g (List.mem_cons_self ..))
    by_cases hn : n = "array"
    · subst hn
      refine ⟨.array s, ?_, ?_⟩
      · rw [Spelled.text, hs, text_array_cons, String.toList_append]
        rfl
      · rw [Spelled.denote, hd, norm_array_cons]
    · obtain ⟨hname, hfix⟩ := h.root hn
      obtain ⟨ss, hss, hds⟩ := exists_spelledAll hany gs fun x hx =>
        h.child x (List.mem_cons_of_mem g hx)
      refine ⟨.generic ⟨n.toList, hname⟩ ⟨[], by simp [Text.AllBlank]⟩ .angle .angle s ss, ?_, ?_⟩
      · rw [Spelled.text, hs, hss, text_generic hn, String.toList_append, String.toList_append,
          String.toList_append, textTail_toList]
        simp [Bracket.opening, Bracket.closing]
      · rw [Spelled.denote, denotedName_of_fixed hname hfix, hd, hds, norm_of_ne_array hn, normAll]

theorem exists_spelledAll {table : TypeTable} (hany : table.canonicalName "any" = "any") :
    ∀ gs : List TypeNode, (∀ g ∈ gs, Spellable table g) →
      ∃ ss : List Spelled, Spelled.texts ss = (gs.map fun g => g.text.toList) ∧
        Spelled.denoteAll table ss = normAll gs
  | [], _ => ⟨[], by simp [Spelled.texts], by simp [Spelled.denoteAll, normAll]⟩
  | g :: gs, h => by
    obtain ⟨s, hs, hd⟩ := exists_spelled hany g (h g (List.mem_cons_self ..))
    obtain ⟨ss, hss, hds⟩ := exists_spelledAll hany gs fun x hx =>
      h x (List.mem_cons_of_mem g hx)
    refine ⟨s :: ss, ?_, ?_⟩
    · rw [Spelled.texts, hs, hss, List.map_cons]
    · rw [Spelled.denoteAll, hd, hds, normAll]

end

theorem ofString_text {table : TypeTable} (hany : table.canonicalName "any" = "any")
    {t : TypeNode} (h : Spellable table t) : ofString table t.text = t.norm := by
  obtain ⟨s, hs, hd⟩ := exists_spelled hany t h
  unfold ofString
  rw [← hs, Spelled.ofChars_text, hd]

mutual

theorem text_norm : ∀ t : TypeNode, t.norm.text = t.text
  | node n [] => by
    by_cases hn : n = "array"
    · subst hn
      rw [norm_array_nil, text_arrayOf, text_any, text_array_nil]
      rfl
    · rw [norm_of_ne_array hn, normAll]
  | node n (g :: gs) => by
    by_cases hn : n = "array"
    · subst hn
      rw [norm_array_cons, text_arrayOf, text_norm g, text_array_cons]
    · rw [norm_of_ne_array hn, normAll, text_generic hn, text_generic hn, text_norm g,
        textTail_normAll gs]

theorem textTail_normAll : ∀ gs : List TypeNode, textTail (normAll gs) = textTail gs
  | [] => by rw [normAll]
  | g :: gs => by rw [normAll, textTail, textTail, text_norm g, textTail_normAll gs]

end

mutual

theorem norm_eq_self_iff : ∀ t : TypeNode, t.norm = t ↔ t.OneElementArrays
  | node n [] => by
    rw [oneElementArrays_node]
    by_cases hn : n = "array"
    · subst hn
      rw [norm_array_nil]
      simp [arrayOf]
    · rw [norm_of_ne_array hn, normAll]
      simp [hn]
  | node n (g :: gs) => by
    rw [oneElementArrays_node]
    by_cases hn : n = "array"
    · subst hn
      have ih := norm_eq_self_iff g
      rw [norm_array_cons]
      cases gs with
      | nil => simpa [arrayOf] using ih
      | cons k gs => simp [arrayOf]
    · have ih := norm_eq_self_iff g
      have ihs := normAll_eq_self_iff gs
      rw [norm_of_ne_array hn, normAll]
      simp [hn, ih, ihs]

theorem normAll_eq_self_iff :
    ∀ gs : List TypeNode, normAll gs = gs ↔ ∀ g ∈ gs, g.OneElementArrays
  | [] => by simp [normAll]
  | g :: gs => by
    have ih := norm_eq_self_iff g
    have ihs := normAll_eq_self_iff gs
    rw [normAll]
    simp [ih, ihs]

end

/-- Reading undoes writing up to the normal form: the canonical spelling is a fixed point, and the
tree comes back exactly when every array has one element. -/
theorem reading_canonical_text (table : TypeTable) (t : TypeNode)
    (hany : table.canonicalName "any" = "any") (h : t.Spellable table) :
    ofString table t.text = t.norm ∧ canonicalSpelling table t.text = t.text ∧
      (ofString table t.text = t ↔ t.OneElementArrays) := by
  have hn := ofString_text hany h
  refine ⟨hn, ?_, ?_⟩
  · unfold canonicalSpelling
    rw [hn, text_norm]
  · rw [hn]
    exact norm_eq_self_iff t

/-- A page of three: an array that tells nothing of its elements, an array of pets, and an order. -/
theorem reading_canonical_text_page :
    let t : TypeNode :=
      .node "Page" [.node "array" [], .node "array" [.node "Pet" [.any]], .node "Order" []]
    TypeTable.typeScript.canonicalName "any" = "any" ∧ t.Spellable .typeScript ∧
      ofString .typeScript t.text = t.norm ∧ canonicalSpelling .typeScript t.text = t.text ∧
        (ofString .typeScript t.text = t ↔ t.OneElementArrays) :=
  ⟨by decide, by decide, reading_canonical_text _ _ (by decide) (by decide)⟩

end ClientCompiler.TypeNode
