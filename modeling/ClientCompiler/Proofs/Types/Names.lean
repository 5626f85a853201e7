import ClientCompiler.Proofs.Types.Printing

/-!
The names in the text of a type. The text is a row of names and marks, and every name in it is a
name of the tree, or the `any` that stands for the element of an array without arguments. Not all
names of the tree are in the text: an array shows one argument, and its own name never.
-/

namespace ClientCompiler

namespace TypeNode

/-- A name in the text of a type, or one of the marks between names. -/
inductive Token where
  | name (n : String)
  | opening
  | closing
  | comma
  | array
  deriving DecidableEq, Repr

namespace Token

def text : Token → String
  | name n => n
  | opening => "<"
  | closing => ">"
  | comma => ","
  | array => "[]"

def name? : Token → Option String
  | name n => some n
  | _ => none

end Token

mutual

def tokens : TypeNode → List Token
  | node n gs =>
    if n = "array" then
      match gs with
      | [] => [.name "any", .array]
      | g :: _ => tokens g ++ [.array]
    else
      match gs with
      | [] => [.name n]
      | g :: gs => [.name n, .opening] ++ tokens g ++ tokensTail gs

def tokensTail : List TypeNode → List Token
  | [] => [.closing]
  | g :: gs => [.comma] ++ tokens g ++ tokensTail gs

end

def printedNames (t : TypeNode) : List String := t.tokens.filterMap Token.name?

def Token.join (ts : List Token) : String := String.join (ts.map Token.text)

theorem Token.join_append (ts us : List Token) :
    Token.join (ts ++ us) = Token.join ts ++ Token.join us := by
  simp [Token.join]

mutual

theorem join_tokens : ∀ t : TypeNode, Token.join t.tokens = t.text
  | node n [] => by
    by_cases hn : n = "array"
    · subst hn
      rw [text_array_nil]
      simp [tokens, Token.join, Token.text]
    · rw [text_leaf hn]
      simp [tokens, hn, Token.join, Token.text]
  | node n (g :: gs) => by
    by_cases hn : n = "array"
    · subst hn
      rw [text_array_cons, tokens, if_pos rfl, Token.join_append, join_tokens g]
      simp [Token.join, Token.text]
    · rw [text_generic hn, tokens, if_neg hn, Token.join_append, Token.join_append, join_tokens g,
        join_tokensTail gs]
      simp [Token.join, Token.text]

theorem join_tokensTail : ∀ gs : List TypeNode, Token.join (tokensTail gs) = textTail gs
  | [] => by simp [tokensTail, textTail, Token.join, Token.text]
  | g :: gs => by
    rw [tokensTail, textTail, Token.join_append, Token.join_append, join_tokens g,
      join_tokensTail gs]
    simp [Token.join, Token.text]

end

mutual

theorem names_of_tokens : ∀ (t : TypeNode) {n : String}, Token.name n ∈ t.tokens →
    n = "any" ∨ n ∈ t.names
  | node m [], n, h => by
    by_cases hm : m = "array"
    · subst hm
      left
      simpa [tokens] using h
    · right
      simpa [tokens, hm, names, namesAll] using h
  | node m (g :: gs), n, h => by
    rw [names, List.mem_cons, namesAll, List.mem_append]
    by_cases hm : m = "array"
    · subst hm
      have hg : Token.name n ∈ g.tokens := by simpa [tokens] using h
      rcases names_of_tokens g hg with hany | hmem
      · exact Or.inl hany
      · exact Or.inr (Or.inr (Or.inl hmem))
    · have hcases : n = m ∨ Token.name n ∈ g.tokens ∨ Token.name n ∈ tokensTail gs := by
        simpa [tokens, hm] using h
      rcases hcases with hroot | hg | hgs
      · exact Or.inr (Or.inl hroot)
      · rcases names_of_tokens g hg with hany | hmem
        · exact Or.inl hany
        · exact Or.inr (Or.inr (Or.inl hmem))
      · rcases names_of_tokensTail gs hgs with hany | hmem
        · exact Or.inl hany
        · exact Or.inr (Or.inr (Or.inr hmem))

theorem names_of_tokensTail : ∀ (gs : List TypeNode) {n : String}, Token.name n ∈ tokensTail gs →
    n = "any" ∨ n ∈ namesAll gs
  | [], n, h => by simp [tokensTail] at h
  | g :: gs, n, h => by
    rw [namesAll, List.mem_append]
    have hcases : Token.name n ∈ g.tokens ∨ Token.name n ∈ tokensTail gs := by
      simpa [tokensTail] using h
    rcases hcases with hg | hgs
    · rcases names_of_tokens g hg with hany | hmem
      · exact Or.inl hany
      · exact Or.inr (Or.inl hmem)
    · rcases names_of_tokensTail gs hgs with hany | hmem
      · exact Or.inl hany
      · exact Or.inr (Or.inr hmem)

end

theorem mem_printedNames {t : TypeNode} {n : String} :
    n ∈ t.printedNames ↔ Token.name n ∈ t.tokens := by
  unfold printedNames
  rw [List.mem_filterMap]
  constructor
  · rintro ⟨token, htoken, hname⟩
    cases token with
    | name m =>
      obtain rfl := Option.some.inj hname
      exact htoken
    | _ => cases hname
  · intro h
    exact ⟨.name n, h, rfl⟩

theorem mem_externalTypes {table : TypeTable} {t : TypeNode} {n : String} :
    n ∈ t.externalTypes table ↔ n ∈ t.names ∧ table.isBase n = false := by
  simp [externalTypes]

theorem base_or_external_of_printed {table : TypeTable} (hany : table.isBase "any" = true)
    {t : TypeNode} {n : String} (h : n ∈ t.printedNames) :
    table.isBase n = true ∨ n ∈ t.externalTypes table := by
  rcases names_of_tokens t (mem_printedNames.mp h) with rfl | hmem
  · exact Or.inl hany
  · cases hbase : table.isBase n with
    | true => exact Or.inl rfl
    | false => exact Or.inr (mem_externalTypes.mpr ⟨hmem, hbase⟩)

theorem text_ne_empty {t : TypeNode} (h : t.name ≠ "") : t.text ≠ "" := by
  obtain ⟨n, gs⟩ := t
  by_cases hn : n = "array"
  · subst hn
    cases gs with
    | nil =>
      rw [text_array_nil]
      decide
    | cons g gs =>
      rw [text_array_cons]
      simp
  · cases gs with
    | nil =>
      rw [text_leaf hn]
      exact h
    | cons g gs =>
      rw [text_generic hn]
      simp

theorem nodeName_ne_empty (table : TypeTable) (s : List Char) : Spelling.nodeName table s ≠ "" := by
  simp only [Spelling.nodeName]
  split
  · decide
  · next h => simpa using h

theorem name_parse_ne_empty (table : TypeTable) (fuel : Nat) (s : List Char) :
    (Spelling.parse table fuel s).name ≠ "" := by
  cases fuel with
  | zero => simp [Spelling.parse, any]
  | succ fuel =>
    rw [Spelling.parse]
    split
    · decide
    · split
      · simp [arrayOf]
      · exact nodeName_ne_empty table _

theorem name_ofString_ne_empty (table : TypeTable) (s : String) : (ofString table s).name ≠ "" :=
  name_parse_ne_empty table _ _

theorem generic_name_ne_empty (table : TypeTable) (s : String) :
    ∀ g ∈ (ofString table s).generics, g.name ≠ "" := by
  unfold ofString ofChars
  rw [Spelling.parse]
  split
  · intro g hg
    cases hg
  · split
    · simp [arrayOf, name_parse_ne_empty]
    · intro g hg
      obtain ⟨r, -, rfl⟩ := List.mem_map.mp hg
      exact name_parse_ne_empty table _ r

end TypeNode
end ClientCompiler
