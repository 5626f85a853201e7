import ClientCompiler.Document.Operations
import ClientCompiler.Proofs.Alike

/-!
Types of operations under two registries. A registry is asked only whether a reference is reported,
so that the types are the same under any two, and the logs are related as the reports on single
references are.
-/

namespace ClientCompiler

open Traced (Alike)

variable {table : TypeTable} {known known' : List String}
  {r : List Diagnostic → List Diagnostic → Prop}

namespace Schema

/-- The reports on every single reference are related. -/
def ReportsAlike (r : List Diagnostic → List Diagnostic → Prop) (table : TypeTable)
    (known known' : List String) (context : String) : Prop :=
  ∀ target, r (danglingLog table known (some context) target)
    (danglingLog table known' (some context) target)

theorem danglingLog_sublist (h : known ⊆ known') (context : Option String) (target : TypeNode) :
    (danglingLog table known' context target).Sublist
      (danglingLog table known context target) := by
  unfold danglingLog
  by_cases hknown : target.innermost.name ∈ known
  · have hknown' := h hknown
    simp [hknown, hknown']
  · have hall : (known.contains target.innermost.name) = false := by simpa using hknown
    simp only [hall, Bool.false_or]
    cases hbase : table.isBase target.innermost.name with
    | true => simp
    | false =>
      rw [Bool.or_false]
      split
      · exact List.nil_sublist _
      · exact List.Sublist.refl _

theorem reportsAlike_sublist (table : TypeTable) (known known' : List String) (context : String) :
    ReportsAlike (fun l m => known ⊆ known' → m.Sublist l) table known known' context :=
  fun target h => danglingLog_sublist h (some context) target

/-- The induction is on the chain: what stands above a reference reports nothing. -/
theorem fieldType_alike (hr : Joins r) {context : String}
    (hreports : ReportsAlike r table known known' context) (c : List Link) :
    Alike r (fieldType table known (some context) c) (fieldType table known' (some context) c) := by
  induction c with
  | nil => exact Alike.pure hr _
  | cons l rest ih =>
    cases l with
    | endless => exact ⟨rfl, hr.nil⟩
    | schema s =>
      rw [fieldType, fieldType]
      refine (Alike.lift hr _).bind hr fun target _ => ?_
      cases target with
      | some t => exact ⟨rfl, hreports t⟩
      | none =>
        dsimp only
        split
        · exact Alike.pure hr _
        · refine (Alike.lift hr _).bind hr fun node _ => ?_
          split
          · exact ih.bind hr fun element _ => Alike.pure hr _
          · exact Alike.pure hr _

end Schema

namespace Parameters

theorem extract_alike (hr : Joins r) {context : String}
    (hreports : Schema.ReportsAlike r table known known' context) (param : Value.Entries) :
    Alike r (extract table known context param) (extract table known' context param) := by
  unfold extract
  split
  · exact Alike.pure hr _
  · refine (Schema.fieldType_alike hr hreports _).bind hr fun node _ => ?_
    exact (Alike.lift hr _).bind hr fun _ _ => Alike.pure hr _

theorem extractAll_alike (hr : Joins r) {context : String}
    (hreports : Schema.ReportsAlike r table known known' context) (params : List Value.Entries) :
    Alike r (extractAll table known context params) (extractAll table known' context params) := by
  induction params with
  | nil => exact Alike.pure hr _
  | cons p ps ih =>
    refine (extract_alike hr hreports p).bind hr fun first _ => ?_
    refine ih.bind hr fun others _ => ?_
    cases first <;> exact Alike.pure hr _

end Parameters

namespace Operations

theorem returnType_alike (hr : Joins r) (scope scope' : Scope) (htable : scope'.table = scope.table)
    {context : String}
    (hreports : Schema.ReportsAlike r scope.table scope.registry scope'.registry context)
    (operation : Value.Entries) :
    Alike r (returnType scope context operation) (returnType scope' context operation) := by
  unfold returnType
  rw [htable]
  refine (Alike.lift hr _).bind hr fun responses _ => ?_
  split
  · exact (Schema.fieldType_alike hr hreports _).bind hr fun node _ => Alike.pure hr _
  · exact Alike.pure hr _

end Operations
end ClientCompiler
