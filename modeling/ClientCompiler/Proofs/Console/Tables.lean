import ClientCompiler.Console.Printer
import ClientCompiler.Proofs.Emission.Documents
import ClientCompiler.Proofs.Text.Words

/-!
Tables are read back from what is printed of them. Tabs and line feeds tell the cells of a plain
table, as long as the cells hold none, and the objects of JSON have the headers as their keys; both
give the same headers and the same rows.
-/

namespace ClientCompiler

def FitsCell (s : String) : Prop := '\t' ∉ s.toList ∧ '\n' ∉ s.toList

instance (s : String) : Decidable (FitsCell s) :=
  inferInstanceAs (Decidable ('\t' ∉ s.toList ∧ '\n' ∉ s.toList))

namespace Table

/-- The rows that a text is read as, where a line feed ends every row and tabs stand between cells. -/
def TabbedAs (out : List Char) (rows : List (List String)) : Prop :=
  ∃ lines, Text.splitOn '\n' out = lines ++ [[]] ∧
    lines.map (fun l => (Text.splitOn '\t' l).map String.ofList) = rows

def rowObject (headers row : List String) : Value :=
  .map ((headers.zip row).map fun (h, c) => (.str h, .str c))

/-- Two texts denote one table: one with tabs and the headers in its first row, the other as a list
of objects. -/
structure Denoted (plain json : List Char) (headers : List String) (rows : List (List String)) :
    Prop where
  aligned : ∀ row ∈ rows, row.length = headers.length
  tabbed : TabbedAs plain (headers :: rows)
  objects : Json.parse json = .ok (.list (rows.map (rowObject headers)))

/-- A table that can be read back: every row has a cell for each header, and no header is repeated. -/
structure Readable (t : Table) : Prop where
  headed : t.headers ≠ []
  distinct : t.headers.Nodup
  aligned : ∀ row ∈ t.rows, row.length = t.headers.length
  fits : ∀ row ∈ t.headers :: t.rows, ∀ cell ∈ row, FitsCell cell

variable {t : Table} {headers row : List String} {rows : List (List String)} {p q : Printer}

/-! ## Tabs and line feeds -/

theorem splitOn_row (hne : row ≠ []) (h : ∀ cell ∈ row, FitsCell cell) :
    (Text.splitOn '\t' ("\t".intercalate row).toList).map String.ofList = row := by
  have htab : ∀ cell ∈ row.map String.toList, '\t' ∉ cell :=
    List.forall_mem_map.mpr fun cell hcell => (h cell hcell).1
  have htoList : ("\t".intercalate row).toList = List.intercalate ['\t'] (row.map String.toList) :=
    String.toList_intercalate
  rw [htoList, Text.splitOn_intercalate (by simpa using hne) htab, List.map_map]
  exact (List.map_congr_left fun cell _ => String.ofList_toList).trans (List.map_id row)

theorem lineFeed_not_mem_row (h : ∀ cell ∈ row, FitsCell cell) :
    '\n' ∉ ("\t".intercalate row).toList := by
  rw [String.toList_intercalate]
  intro hmem
  rcases Text.of_mem_intercalate hmem with hsep | ⟨cell, hcell, hmem⟩
  · exact absurd hsep (by decide)
  · obtain ⟨text, htext, rfl⟩ := List.mem_map.mp hcell
    exact (h text htext).2 hmem

theorem tabbedAs_rows (hne : ∀ row ∈ rows, row ≠ []) (h : ∀ row ∈ rows, ∀ cell ∈ row, FitsCell cell) :
    TabbedAs ((rows.map fun row => "\t".intercalate row).flatMap fun l => Printer.line l.toList)
      rows := by
  refine ⟨rows.map fun row => ("\t".intercalate row).toList, ?_, ?_⟩
  · have hline : ((rows.map fun row => "\t".intercalate row).flatMap fun l => Printer.line l.toList) =
        (rows.map fun row => ("\t".intercalate row).toList).flatMap fun l => l ++ ['\n'] := by
      rw [List.flatMap_map, List.flatMap_map]
      rfl
    rw [hline, Text.splitOn_ended]
    exact List.forall_mem_map.mpr fun row hrow => lineFeed_not_mem_row (h row hrow)
  · rw [List.map_map]
    exact (List.map_congr_left fun row hrow => splitOn_row (hne row hrow) (h row hrow)).trans
      (List.map_id rows)

theorem Readable.tabbed (h : t.Readable) (hp : p.format = .plain) :
    ∃ out, p.table t = .ok out ∧ TabbedAs out (t.headers :: t.rows) := by
  have hne : ∀ row ∈ t.headers :: t.rows, row ≠ [] := by
    refine List.forall_mem_cons.mpr ⟨h.headed, fun row hrow hnil => h.headed ?_⟩
    rw [← List.length_eq_zero_iff, ← h.aligned row hrow, hnil]
    rfl
  refine ⟨_, ?_, tabbedAs_rows hne h.fits⟩
  rw [Printer.table, hp]
  rfl

/-! ## Objects -/

theorem field_zip_of_not_mem {name : String} (h : name ∉ headers) (row : List String) :
    Value.field name ((headers.zip row).map fun (h, c) => (.str h, .str c)) = none := by
  induction headers generalizing row with
  | nil => rfl
  | cons header headers ih =>
    rw [List.mem_cons, not_or] at h
    cases row with
    | nil => rfl
    | cons cell row => rw [List.zip_cons_cons, List.map_cons, Value.field_cons_ne (Ne.symm h.1), ih h.2]

theorem hasDistinctNames_zip (h : headers.Nodup) (row : List String) :
    Value.hasDistinctNames ((headers.zip row).map fun (h, c) => (.str h, .str c)) = true := by
  induction headers generalizing row with
  | nil => rfl
  | cons header headers ih =>
    rw [List.nodup_cons] at h
    cases row with
    | nil => rfl
    | cons cell row =>
      rw [List.zip_cons_cons, List.map_cons, Value.hasDistinctNames, field_zip_of_not_mem h.1,
        ih h.2]
      rfl

theorem isPlain_rowObject (h : headers.Nodup) (row : List String) :
    (rowObject headers row).isPlain = true := by
  refine Manifest.isPlain_map (hasDistinctNames_zip h row) ?_
  induction headers.zip row with
  | nil => rfl
  | cons pair pairs ih => exact ih

theorem objects_eq (h : t.headers.Nodup) :
    t.objects = .list (t.rows.map (rowObject t.headers)) := by
  unfold objects rowObject
  simp only [Value.ofPairs_of_distinct (hasDistinctNames_zip h _)]

theorem Readable.parsed (h : t.Readable) (hq : q.format = .json) :
    ∃ out, q.table t = .ok out ∧
      Json.parse out = .ok (.list (t.rows.map (rowObject t.headers))) := by
  have hplain : t.objects.isPlain = true := by
    rw [objects_eq h.distinct]
    exact Manifest.isPlain_list (isPlain_rowObject h.distinct) t.rows
  obtain ⟨text, htext, hwritten⟩ := Formatter.jsonText_of_plain hplain
  refine ⟨Printer.line text, ?_, ?_⟩
  · rw [Printer.table, hq]
    dsimp only
    rw [Printer.json, htext]
    rfl
  · rw [← objects_eq h.distinct]
    exact hwritten.parse (.inr rfl)

theorem Readable.denoted (h : t.Readable) (hp : p.format = .plain) (hq : q.format = .json) :
    ∃ plain json, p.table t = .ok plain ∧ q.table t = .ok json ∧
      Denoted plain json t.headers t.rows := by
  obtain ⟨plain, hplain, htabbed⟩ := h.tabbed hp
  obtain ⟨json, hjson, hparsed⟩ := h.parsed hq
  exact ⟨plain, json, hplain, hjson, h.aligned, htabbed, hparsed⟩

end Table

end ClientCompiler
