import ClientCompiler.Document.Definitions
import ClientCompiler.Proofs.Returning
import Mathlib.Data.List.Basic

/-!
Models in two passes. The first pass reads the definitions: which entries are objects, what their
keys spell, and for each name the plan of the first entry that has it. The second pass knows all
names and gives every property its type. Nothing is queued and no type is written twice.
-/

namespace ClientCompiler.TwoPass

/-- An entry of the definitions that is an object, with the type that its key spells. -/
structure Definition where
  key : Value
  node : TypeNode
  fields : Value.Entries

def Definition.name (d : Definition) : String := d.node.name

inductive TypeSource where
  | reference (target : TypeNode)
  | inline (node : TypeNode)

structure PropertyPlan where
  name : String
  required : Bool
  description : Option String
  source : TypeSource

structure ModelPlan where
  name : String
  title : Option String
  generics : List String
  properties : List PropertyPlan

def definition (table : TypeTable) (key : Value) (fields : Value.Entries) :
    Except Fault Definition := do
  let node ← TypeNode.ofValue table key
  return ⟨key, node, fields⟩

def definitions (table : TypeTable) : Value.Entries → Except Fault (List Definition)
  | [] => .ok []
  | (key, .map fields) :: kvs => do
    let d ← definition table key fields
    let ds ← definitions table kvs
    return d :: ds
  | _ :: kvs => definitions table kvs

def names (ds : List Definition) : List String := (ds.map (·.name)).eraseDups

/-- For each name, the first definition that has it. -/
def firsts (ds : List Definition) : List Definition :=
  (names ds).filterMap fun n => ds.find? (·.name == n)

/-- The definitions whose name a definition before them has. -/
def shadowedAfter (earlier : List Definition) : List Definition → List Definition
  | [] => []
  | d :: ds =>
    if earlier.any (·.name == d.name) then d :: shadowedAfter (earlier ++ [d]) ds
    else shadowedAfter (earlier ++ [d]) ds

def schemaFields : Value → Value.Entries
  | .map kvs => kvs
  | _ => []

def typeSource (table : TypeTable) (schema : Value.Entries) : Except Fault TypeSource := do
  match ← Schema.referenceTarget? table (Schema.chain schema) with
  | some target => return .reference target
  | none => return .inline (← Schema.inlineType table (Schema.chain schema))

def propertyPlan (table : TypeTable) (required : List Value) (entry : Value × Value) :
    Except Fault PropertyPlan := do
  let description := Value.fieldD "description" (schemaFields entry.2)
  Shape.accept (Shape.textAt "name" entry.1 ++ Shape.optionalTextAt "description" description)
  let source ← typeSource table (schemaFields entry.2)
  return ⟨Shape.textD entry.1, required.any (·.same entry.1), Shape.text? description, source⟩

def modelPlan (table : TypeTable) (d : Definition) : Except Fault ModelPlan := do
  let title := Value.fieldD "title" d.fields
  Shape.accept (Shape.optionalTextAt "title" title)
  let required ← Shape.members (Shape.orEmptyList (Value.fieldD "required" d.fields))
  let properties ← Shape.entries (Shape.orEmptyMap (Value.fieldD "properties" d.fields))
  let plans ← properties.mapM (propertyPlan table required)
  return ⟨d.name, Shape.text? title, d.node.generics.map (·.name), plans⟩

/-- The type of a property once all names are known: a reference to none of them is `any`. -/
def TypeSource.type (registered : List String) : TypeSource → String
  | .reference target => if target.innermost.name ∈ registered then target.text else "any"
  | .inline node => node.text

def PropertyPlan.property (registered : List String) (p : PropertyPlan) : Property :=
  ⟨p.name, p.source.type registered, p.required, p.description⟩

def ModelPlan.model (registered : List String) (m : ModelPlan) : Model :=
  ⟨m.name, m.title, m.generics, m.properties.map (·.property registered)⟩

def TypeSource.isReference : TypeSource → Bool
  | .reference _ => true
  | .inline _ => false

def TypeSource.missing? (registered : List String) : TypeSource → Option String
  | .reference target =>
    if target.innermost.name ∈ registered then none else some target.innermost.name
  | .inline _ => none

def skipRecord (d : Definition) : Level × String :=
  (.debug, s!"Skipping definition '{d.key.textString}': '{d.name}' already registered")

def warnings (registered : List String) (m : ModelPlan) : List (Level × String) :=
  m.properties.filterMap fun p => (p.source.missing? registered).map fun name =>
    (.warning, s!"{name} not found (referenced from {m.name}.{p.name})")

def countReferences (plans : List ModelPlan) : Nat :=
  (plans.flatMap (·.properties)).countP (·.source.isReference)

/-- All records, in order: what is shadowed, what is not found, and the two counts. -/
def records (ds : List Definition) (plans : List ModelPlan) : List (Level × String) :=
  (shadowedAfter [] ds).map skipRecord ++ plans.flatMap (warnings (names ds)) ++
    [(.debug, s!"Registered {(names ds).length} models, bound {countReferences plans} references")]

/-- The models and the records of the two passes. -/
def outcome (table : TypeTable) (kvs : Value.Entries) :
    Except Fault (List Model × List (Level × String)) := do
  let ds ← definitions table kvs
  let plans ← (firsts ds).mapM (modelPlan table)
  return (plans.map (·.model (names ds)), records ds plans)

def newAfter (earlier : List Definition) : List Definition → List Definition
  | [] => []
  | d :: ds =>
    if earlier.any (·.name == d.name) then newAfter (earlier ++ [d]) ds
    else d :: newAfter (earlier ++ [d]) ds

theorem after_met {earlier : List Definition} {d : Definition}
    (h : earlier.any (·.name == d.name) = true) (ds : List Definition) :
    newAfter earlier (d :: ds) = newAfter (earlier ++ [d]) ds ∧
      shadowedAfter earlier (d :: ds) = d :: shadowedAfter (earlier ++ [d]) ds :=
  ⟨if_pos h, if_pos h⟩

theorem after_unmet {earlier : List Definition} {d : Definition}
    (h : ¬earlier.any (·.name == d.name) = true) (ds : List Definition) :
    newAfter earlier (d :: ds) = d :: newAfter (earlier ++ [d]) ds ∧
      shadowedAfter earlier (d :: ds) = shadowedAfter (earlier ++ [d]) ds :=
  ⟨if_neg h, if_neg h⟩

theorem any_name_append (earlier : List Definition) (d : Definition) (n : String) :
    (earlier ++ [d]).any (·.name == n) = (earlier.any (·.name == n) || d.name == n) := by
  simp

theorem filter_unmet_append (earlier : List Definition) (d : Definition) (ns : List String) :
    ns.filter (fun n => !(earlier ++ [d]).any (·.name == n)) =
      (ns.filter fun n => !earlier.any (·.name == n)).filter fun n => !n == d.name := by
  rw [List.filter_filter]
  congr 1
  funext n
  rw [any_name_append, Bool.not_or, Bool.and_comm, BEq.comm (a := n)]

theorem find_of_ne {d : Definition} {n : String} (h : n ≠ d.name) (ds : List Definition) :
    (d :: ds).find? (·.name == n) = ds.find? (·.name == n) := by
  rw [List.find?_cons_of_neg]
  simpa using Ne.symm h

/-- Going through the definitions once finds the first one of each name that was not met before. -/
theorem newAfter_eq (earlier ds : List Definition) :
    newAfter earlier ds =
      (((ds.map (·.name)).filter fun n => !earlier.any (·.name == n)).eraseDups).filterMap
        fun n => ds.find? (·.name == n) := by
  induction ds generalizing earlier with
  | nil => rfl
  | cons d ds ih =>
    rw [newAfter, ih, filter_unmet_append, List.map_cons]
    have hcongr : ∀ ns : List String, (∀ n ∈ ns, n ≠ d.name) →
        ns.filterMap (fun n => ds.find? (·.name == n)) =
          ns.filterMap fun n => (d :: ds).find? (·.name == n) := by
      intro ns hns
      apply List.filterMap_congr
      intro n hn
      rw [find_of_ne (hns n hn)]
    split
    · next h =>
      have hmet : ∀ n ∈ (ds.map (·.name)).filter (fun n => !earlier.any (·.name == n)),
          n ≠ d.name := by
        rintro n hn rfl
        simp only [List.mem_filter, h] at hn
        simp at hn
      have hself : ((ds.map (·.name)).filter fun n => !earlier.any (·.name == n)).filter
          (fun n => !n == d.name) =
            (ds.map (·.name)).filter fun n => !earlier.any (·.name == n) := by
        rw [List.filter_eq_self]
        intro n hn
        simpa using hmet n hn
      rw [hself, List.filter_cons_of_neg (by simp [h])]
      exact hcongr _ fun n hn => hmet n (List.mem_eraseDups.mp hn)
    · next h =>
      rw [List.filter_cons_of_pos (by simpa using h), List.eraseDups_cons, List.filterMap_cons,
        List.find?_cons_of_pos (by simp)]
      congr 1
      apply hcongr
      intro n hn
      have hm := List.mem_eraseDups.mp hn
      simpa using (List.mem_filter.mp hm).2

theorem firsts_eq_newAfter (ds : List Definition) : firsts ds = newAfter [] ds := by
  have hall : (ds.map (·.name)).filter (fun n => !([] : List Definition).any (·.name == n)) =
      ds.map (·.name) := List.filter_eq_self.mpr fun _ _ => rfl
  rw [newAfter_eq, hall]
  rfl

theorem map_name_firsts (ds : List Definition) : (firsts ds).map (·.name) = names ds := by
  have hfound : ∀ n ∈ names ds, (ds.find? (·.name == n)).map (·.name) = some n := by
    intro n hn
    obtain ⟨d, hd, rfl⟩ := List.mem_map.mp (List.mem_eraseDups.mp hn)
    cases hf : ds.find? (·.name == d.name) with
    | none => exact absurd (List.find?_eq_none.mp hf d hd) (by simp)
    | some e => simpa using List.find?_some hf
  unfold firsts
  rw [List.map_filterMap, List.filterMap_congr hfound, List.filterMap_some]

theorem name_of_modelPlan {table : TypeTable} {d : Definition} {m : ModelPlan}
    (h : modelPlan table d = .ok m) : m.name = d.name := by
  simp only [modelPlan, bind_eq_ok, pure_eq_ok] at h
  obtain ⟨_, _, _, _, _, _, _, _, rfl⟩ := h
  rfl

theorem map_name_of_mapM {table : TypeTable} {ds : List Definition} {ms : List ModelPlan}
    (h : ds.mapM (modelPlan table) = .ok ms) : ms.map (·.name) = ds.map (·.name) := by
  induction ds generalizing ms with
  | nil =>
    obtain rfl := mapM_nil_eq_ok.mp h
    rfl
  | cons d ds ih =>
    obtain ⟨m, rest, hm, hrest, rfl⟩ := mapM_cons_eq_ok.mp h
    rw [List.map_cons, List.map_cons, ih hrest, name_of_modelPlan hm]

end ClientCompiler.TwoPass
