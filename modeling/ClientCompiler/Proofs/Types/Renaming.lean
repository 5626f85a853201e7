import ClientCompiler.Proofs.Types.Reading

/-!
A table renames, and does no more. Reading a text under a table gives the type that is read without
one, with every name put through the table: brackets, commas, suffixes and blanks are read in the
same way, also in a text that spells nothing.
-/

namespace ClientCompiler

/-- The name that a node gets for a name; where the table gives nothing, `any`. -/
def TypeTable.nameFor (table : TypeTable) (n : String) : String :=
  if table.canonicalName n = "" then "any" else table.canonicalName n

namespace TypeNode

mutual

def rename (f : String → String) : TypeNode → TypeNode
  | node n gs => node (f n) (renameAll f gs)

def renameAll (f : String → String) : List TypeNode → List TypeNode
  | [] => []
  | g :: gs => rename f g :: renameAll f gs

end

theorem renameAll_eq_map (f : String → String) (gs : List TypeNode) :
    renameAll f gs = gs.map (rename f) := by
  induction gs with
  | nil => rw [renameAll, List.map_nil]
  | cons g gs ih => rw [renameAll, ih, List.map_cons]

theorem rename_node (f : String → String) (n : String) (gs : List TypeNode) :
    (node n gs).rename f = node (f n) (gs.map (rename f)) := by
  rw [rename, renameAll_eq_map]

theorem rename_any {f : String → String} (h : f "any" = "any") : any.rename f = any := by
  rw [any, rename_node, h, List.map_nil]

theorem rename_arrayOf {f : String → String} (h : f "array" = "array") (t : TypeNode) :
    (arrayOf t).rename f = arrayOf (t.rename f) := by
  rw [arrayOf, rename_node, h, List.map_singleton, arrayOf]

end TypeNode

namespace Spelling

variable {table : TypeTable}

theorem nameFor_of_fixed {n : String} (h : table.canonicalName n = n) (hne : n ≠ "") :
    table.nameFor n = n := by
  rw [TypeTable.nameFor, h, if_neg hne]

theorem nodeName_eq_nameFor (table : TypeTable) (name : List Char) :
    nodeName table name = table.nameFor (String.ofList (Text.trim name)) := by
  simp only [nodeName, TypeTable.nameFor, String.isEmpty_iff]

theorem nameFor_empty (n : String) : TypeTable.empty.nameFor n = if n = "" then "any" else n := rfl

theorem nameFor_nodeName (hempty : table.canonicalName "" = "")
    (hany : table.canonicalName "any" = "any") (name : List Char) :
    table.nameFor (nodeName .empty name) = nodeName table name := by
  rw [nodeName_eq_nameFor, nodeName_eq_nameFor, nameFor_empty]
  by_cases hname : String.ofList (Text.trim name) = ""
  · rw [if_pos hname, hname, nameFor_of_fixed hany (by decide), TypeTable.nameFor, if_pos hempty]
  · rw [if_neg hname]

section

variable (h : ∀ n ∈ ["", "any", "array"], table.canonicalName n = n)

include h

theorem readTrimmed_rename (read : List Char → TypeNode) (t : List Char) :
    readTrimmed table (fun r => (read r).rename table.nameFor) t =
      (readTrimmed .empty read t).rename table.nameFor := by
  have harray : table.nameFor "array" = "array" :=
    nameFor_of_fixed (h "array" (by decide)) (by decide)
  have hname := nameFor_nodeName (h "" (by decide)) (h "any" (by decide)) (nameAndSegment t).1
  unfold readTrimmed
  cases beforeArraySuffix? t with
  | some element => exact (TypeNode.rename_arrayOf harray (read element)).symm
  | none => rw [TypeNode.rename_node, hname, List.map_map]; rfl

/-- One step reads the same texts inside with a table as without one. -/
theorem readStep_rename (read : List Char → TypeNode) (s : List Char) :
    readStep table (fun r => (read r).rename table.nameFor) s =
      (readStep .empty read s).rename table.nameFor := by
  unfold readStep
  cases (Text.trim s).map plainBracket with
  | nil => exact (TypeNode.rename_any (nameFor_of_fixed (h "any" (by decide)) (by decide))).symm
  | cons c t => exact readTrimmed_rename h read (c :: t)

theorem parse_rename (fuel : Nat) (s : List Char) :
    parse table fuel s = (parse .empty fuel s).rename table.nameFor := by
  induction fuel generalizing s with
  | zero =>
    rw [parse, parse, TypeNode.rename_any (nameFor_of_fixed (h "any" (by decide)) (by decide))]
  | succ fuel ih => rw [parse_succ, parse_succ, ← readStep_rename h, funext ih]

end

end Spelling

/-- Reading under a table is reading without one and then renaming, whatever the text, if the table
leaves the names that reading itself makes. -/
theorem TypeNode.ofString_renames {table : TypeTable}
    (h : ∀ n ∈ ["", "any", "array"], table.canonicalName n = n) (s : String) :
    TypeNode.ofString table s = (TypeNode.ofString .empty s).rename table.nameFor :=
  Spelling.parse_rename h (s.toList.length + 1) s.toList

/-- A text with surplus and missing brackets, empty arguments and blanks. -/
theorem TypeNode.ofString_renames_malformed :
    (∀ n ∈ ["", "any", "array"], TypeTable.typeScript.canonicalName n = n) ∧
      TypeNode.ofString .typeScript " List<integer, ,Map«<Void>,» x" =
        (TypeNode.ofString .empty " List<integer, ,Map«<Void>,» x").rename
          TypeTable.typeScript.nameFor :=
  have h : ∀ n ∈ ["", "any", "array"], TypeTable.typeScript.canonicalName n = n := by decide
  ⟨h, TypeNode.ofString_renames h _⟩

end ClientCompiler
