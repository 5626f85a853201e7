import ClientCompiler.Proofs.Document.Entries
import ClientCompiler.Proofs.Document.Merging

/-!
Where parameters are sent. The destination of a parameter is its name and its location, the query if
it says nothing. A merge goes by what is written instead, so that two parameters that are written
differently may have one destination. As long as there are none of these, each destination has one
parameter, and that of the operation wins.
-/

namespace ClientCompiler

def Parameter.destination (p : Parameter) : String × Location := (p.name, p.location)

namespace Parameters

variable {table : TypeTable} {registry : List String} {context : String}
variable {p q : Value.Entries} {d : String × Location} {a b : List Value.Entries}

def writtenName (p : Value.Entries) : Value := (Value.field "name" p).getD (.str "")

def saysWhere (p : Value.Entries) : Bool := (Value.field "in" p).isSome

def destination? (p : Value.Entries) : Option (String × Location) :=
  (location? p).map fun l => (Shape.textD (writtenName p), l)

def declared (ps : List Value.Entries) : List (Value × Location) :=
  (ps.filter fun p => !p.isEmpty).filterMap fun p => (location? p).map fun l => (writtenName p, l)

/-- Two parameters write their names alike, and both of them or none say where they are sent. -/
def WrittenAlike (p q : Value.Entries) : Prop :=
  writtenName p = writtenName q ∧ saysWhere p = saysWhere q

theorem destination?_eq_some : destination? p = some d ↔
    location? p = some d.2 ∧ Shape.textD (writtenName p) = d.1 := by
  obtain ⟨n, l⟩ := d
  cases hlocation : location? p <;> simp [destination?, hlocation, and_comm]

theorem location_written {l : Location} (h : location? p = some l) :
    (Value.field "in" p).getD (.str "") = .str (if saysWhere p then l.name else "") := by
  unfold location? at h
  unfold saysWhere
  split at h
  · next hfield => simp [hfield]
  · next s hfield =>
    have hname := List.find?_some h
    simp only [beq_iff_eq] at hname
    simp [hfield, hname]
  · cases h

theorem same_of_text {v w : Value} {s : String} (h : Shape.text? v = some s) :
    v.same w = true ↔ v = w := by
  cases v with
  | str x => cases w <;> simp [Value.same]
  | bytes b => cases w <;> simp [Value.same]
  | _ => cases h

/-- Parameters of one destination have one key exactly when they are written alike. -/
theorem same_key_iff (hp : destination? p = some d) (hq : destination? q = some d) {s : String}
    (hname : Shape.text? (writtenName p) = some s) :
    (Key.ofEntries p).same (Key.ofEntries q) = true ↔ WrittenAlike p q := by
  have hlocation := location_written (destination?_eq_some.mp hp).1
  have hlocation' := location_written (destination?_eq_some.mp hq).1
  have hnonempty : d.2.name ≠ "" := by cases d.2 <;> decide
  rw [Key.same, Bool.and_eq_true]
  refine and_congr (same_of_text hname) ?_
  rw [Key.ofEntries, Key.ofEntries, hlocation, hlocation', same_of_text rfl]
  cases saysWhere p <;> cases saysWhere q <;> simp [hnonempty, hnonempty.symm]

def ReadAs (table : TypeTable) (registry : List String) (p : Value.Entries) (r : Parameter) :
    Prop :=
  ∃ context names, (extract table registry context p).result = .ok (some (r, names))

theorem ReadAs.destination {r : Parameter} (h : ReadAs table registry p r) :
    destination? p = some r.destination ∧ ∃ s, Shape.text? (writtenName p) = some s := by
  obtain ⟨context, names, h⟩ := h
  unfold extract at h
  split at h
  · cases h
  · next l hlocation =>
    obtain ⟨node, -, h⟩ := Traced.result_bind_eq_ok.mp h
    obtain ⟨⟨⟩, haccept, h⟩ := Traced.result_bind_eq_ok.mp h
    obtain ⟨rfl, -⟩ := Prod.mk.inj (Option.some.inj (Except.ok.inj h))
    exact ⟨destination?_eq_some.mpr ⟨hlocation, rfl⟩,
      Shape.text?_of_textAt (Shape.accept_eq_ok haccept)⟩

theorem readAs_of_extractAll {ps : List Value.Entries} {typed : List Parameter × List String}
    (h : (extractAll table registry context ps).result = .ok typed) :
    List.Forall₂ (ReadAs table registry) (ps.filter fun p => (location? p).isSome) typed.1 := by
  induction ps generalizing typed with
  | nil =>
    obtain rfl := Except.ok.inj h
    exact .nil
  | cons p ps ih =>
    obtain ⟨first, hfirst, h⟩ := Traced.result_bind_eq_ok.mp h
    obtain ⟨rest, hrest, h⟩ := Traced.result_bind_eq_ok.mp h
    cases hlocation : location? p with
    | none =>
      rw [List.filter_cons_of_neg (by simp [hlocation])]
      rw [extract, hlocation] at hfirst
      obtain rfl := Except.ok.inj hfirst
      obtain rfl := Except.ok.inj h
      exact ih hrest
    | some l =>
      rw [List.filter_cons_of_pos (by simp [hlocation])]
      cases first with
      | some x =>
        obtain rfl := Except.ok.inj h
        exact .cons ⟨context, x.2, hfirst⟩ (ih hrest)
      | none =>
        rw [extract, hlocation] at hfirst
        obtain ⟨_, -, hfirst⟩ := Traced.result_bind_eq_ok.mp hfirst
        obtain ⟨_, -, hfirst⟩ := Traced.result_bind_eq_ok.mp hfirst
        cases hfirst

theorem filterMap_destination {ps : List Value.Entries} {rs : List Parameter}
    (h : List.Forall₂ (ReadAs table registry) (ps.filter fun p => (location? p).isSome) rs) :
    ps.filterMap destination? = rs.map Parameter.destination := by
  have hknown : ps.filterMap destination? =
      (ps.filter fun p => (location? p).isSome).filterMap destination? := by
    rw [List.filterMap_filter]
    refine List.filterMap_congr fun p _ => ?_
    cases hlocation : location? p <;> simp [destination?, hlocation]
  rw [hknown]
  generalize (ps.filter fun p => (location? p).isSome) = known at h
  induction h with
  | nil => rfl
  | cons hread _ ih => rw [List.filterMap_cons_some hread.destination.1, ih, List.map_cons]

/-- Two parameters that have one destination. -/
def Together (p q : Value.Entries) : Prop := ∃ d, destination? p = some d ∧ destination? q = some d

theorem Together.symm (h : Together p q) : Together q p := by
  obtain ⟨d, hp, hq⟩ := h
  exact ⟨d, hq, hp⟩

theorem WrittenAlike.symm (h : WrittenAlike p q) : WrittenAlike q p := ⟨h.1.symm, h.2.symm⟩

theorem nodup_destinations {ps : List Value.Entries} :
    (ps.filterMap destination?).Nodup ↔ ps.Pairwise fun p q => ¬ Together p q := by
  refine List.pairwise_filterMap.trans (iff_of_eq (congrArg (List.Pairwise · ps) ?_))
  funext p q
  simp only [Together, not_exists, not_and, eq_iff_iff]
  exact ⟨fun h d hp hq => h d hp d hq rfl, fun h d hp d' hq hd => h d hp (hd ▸ hq)⟩

theorem pairwise_of_declared {ps : List Value.Entries} (h : (declared ps).Nodup) :
    (ps.filter fun p => !p.isEmpty).Pairwise fun p q => ¬ (Together p q ∧ WrittenAlike p q) := by
  refine (List.pairwise_filterMap.mp h).imp ?_
  rintro p q hapart ⟨⟨d, hp, hq⟩, halike⟩
  obtain ⟨hp, -⟩ := destination?_eq_some.mp hp
  obtain ⟨hq, -⟩ := destination?_eq_some.mp hq
  refine hapart _ (by rw [hp]; rfl) _ (by rw [hq]; rfl) ?_
  rw [halike.1]

theorem eq_of_pairwise {α : Type} {r : α → α → Prop} {as : List α} (hr : ∀ a b, r a b → r b a)
    (h : as.Pairwise r) {a b : α} (ha : a ∈ as) (hb : b ∈ as) (hab : ¬ r a b) : a = b := by
  by_contra hne
  have hsymm : Std.Symm r := ⟨hr⟩
  exact hab (h.forall ha hb hne)

theorem eq_of_declared {ps : List Value.Entries} (h : (declared ps).Nodup) (hp : p ∈ ps)
    (hq : q ∈ ps) (hpfilled : p.isEmpty = false) (hqfilled : q.isEmpty = false)
    (htogether : Together p q) (halike : WrittenAlike p q) : p = q := by
  refine eq_of_pairwise ?_ (pairwise_of_declared h) (List.mem_filter.mpr ⟨hp, by simp [hpfilled]⟩)
    (List.mem_filter.mpr ⟨hq, by simp [hqfilled]⟩) (not_not_intro ⟨htogether, halike⟩)
  exact fun p q hapart hqp => hapart ⟨hqp.1.symm, hqp.2.symm⟩

section Merged

variable {own inherited : List Value.Entries}

def TextNames (ps : List Value.Entries) : Prop :=
  ∀ p ∈ ps, ∀ d, destination? p = some d → ∃ s, Shape.text? (writtenName p) = some s

theorem not_writtenAlike_of_kept (hkept : hasKey own (Key.ofEntries p) = false) (hq : q ∈ own)
    (hfilled : q.isEmpty = false) (htogether : Together p q) {s : String}
    (hname : Shape.text? (writtenName q) = some s) : ¬ WrittenAlike p q := by
  intro halike
  obtain ⟨d, hp, hqd⟩ := htogether
  have hapart := hasKey_eq_false.mp hkept q hq hfilled
  rw [(same_key_iff hqd hp hname).mpr halike.symm] at hapart
  cases hapart

theorem pairwise_mergeKeyed (hinherited : (declared inherited).Nodup) (hown : (declared own).Nodup)
    (hnames : TextNames (mergeKeyed inherited own)) :
    (mergeKeyed inherited own).Pairwise (fun p q => ¬ Together p q) ↔
      ∀ p ∈ mergeKeyed inherited own, ∀ q ∈ mergeKeyed inherited own,
        Together p q → WrittenAlike p q := by
  constructor
  · intro hapart p hp q hq htogether
    have hsymm (p q : Value.Entries) (h : ¬ Together p q) : ¬ Together q p := fun h' => h h'.symm
    rw [eq_of_pairwise hsymm hapart hp hq (not_not_intro htogether)]
    exact ⟨rfl, rfl⟩
  · intro halike
    rw [mergeKeyed_eq] at halike hnames ⊢
    rw [List.pairwise_append]
    refine ⟨?_, ?_, ?_⟩
    · have hkept := (pairwise_of_declared hinherited).filter fun p => !hasKey own (Key.ofEntries p)
      rw [List.filter_filter] at hkept
      simp only [Bool.and_comm] at hkept
      refine hkept.imp_of_mem fun hp hq hrepeats htogether => hrepeats ⟨htogether, ?_⟩
      exact halike _ (List.mem_append_left _ hp) _ (List.mem_append_left _ hq) htogether
    · refine (pairwise_of_declared hown).imp_of_mem fun hp hq hrepeats htogether =>
        hrepeats ⟨htogether, ?_⟩
      exact halike _ (List.mem_append_right _ hp) _ (List.mem_append_right _ hq) htogether
    · intro p hp q hq htogether
      have hp' := List.mem_append_left (own.filter fun p => !p.isEmpty) hp
      have hq' := List.mem_append_right
        (inherited.filter fun p => !p.isEmpty && !hasKey own (Key.ofEntries p)) hq
      obtain ⟨d, hpd, hqd⟩ := id htogether
      obtain ⟨s, hname⟩ := hnames q hq' d hqd
      obtain ⟨-, hkept⟩ := List.mem_filter.mp hp
      obtain ⟨hq, hfilled⟩ := List.mem_filter.mp hq
      rw [Bool.and_eq_true, Bool.not_eq_true', Bool.not_eq_true'] at hkept
      rw [Bool.not_eq_true'] at hfilled
      exact not_writtenAlike_of_kept hkept.2 hq hfilled htogether hname
        (halike p hp' q hq' htogether)

theorem eq_of_own (hown : (declared own).Nodup) (hnames : TextNames (mergeKeyed inherited own))
    (hq : q ∈ own) (hfilled : q.isEmpty = false) (hp : p ∈ mergeKeyed inherited own)
    (htogether : Together p q) (halike : WrittenAlike p q) : p = q := by
  obtain ⟨d, -, hqd⟩ := id htogether
  obtain ⟨s, hname⟩ := hnames q (mem_mergeKeyed.mpr ⟨hfilled, Or.inr hq⟩) d hqd
  obtain ⟨hpfilled, ⟨-, hkept⟩ | hp⟩ := mem_mergeKeyed.mp hp
  · exact absurd halike (not_writtenAlike_of_kept hkept hq hfilled htogether hname)
  · exact eq_of_declared hown hp hq hpfilled hfilled htogether halike

end Merged

end Parameters

namespace Operations

variable {scope : Scope} {e : Entry}

def Entry.inherited (scope : Scope) (e : Entry) : List Value.Entries :=
  (parameterList scope e.pathParameters).result.toOption.getD []

def Entry.own (scope : Scope) (e : Entry) : List Value.Entries :=
  (parameterList scope (Value.fieldD "parameters" e.fields)).result.toOption.getD []

theorem merge_of_parameters {merged : List Value.Entries}
    (h : (e.parameters scope).result = .ok merged) :
    Parameters.merge (e.inherited scope) (e.own scope) = .ok merged := by
  obtain ⟨inherited, hinherited, h⟩ := Traced.result_bind_eq_ok.mp h
  obtain ⟨own, hown, h⟩ := Traced.result_bind_eq_ok.mp h
  rw [Entry.inherited, Entry.own, hinherited, hown]
  exact h

/-- How the parameters of an operation go with those that its path and it list. -/
structure OnePerDestination (scope : Scope) (e : Entry) (o : Operation) : Prop where
  distinct : (o.parameters.map Parameter.destination).Nodup ↔
    ∀ p ∈ e.inlined scope, ∀ q ∈ e.inlined scope,
      Parameters.Together p q → Parameters.WrittenAlike p q
  own : ∀ q ∈ e.own scope, q.isEmpty = false → ∀ d, Parameters.destination? q = some d →
    (∀ p ∈ e.inlined scope, Parameters.destination? p = some d → Parameters.WrittenAlike p q) →
    (∃ r ∈ o.parameters, r.destination = d) ∧
      ∀ r ∈ o.parameters, r.destination = d → Parameters.ReadAs scope.table scope.registry q r

/-- If neither the path nor the operation declares a parameter twice, each destination has one
parameter exactly as long as parameters for one destination are written alike, and then it is that
of the operation. -/
theorem one_per_destination {found : Found} (h : (e.extract scope).result = .ok found)
    (hinherited : (Parameters.declared (e.inherited scope)).Nodup)
    (hown : (Parameters.declared (e.own scope)).Nodup) :
    ∃ o, found.operations = [o] ∧ OnePerDestination scope e o := by
  obtain ⟨x, rfl⟩ := extraction_of_extract h
  obtain ⟨-, -, hmerged⟩ := Parameters.merge_eq_ok.mp (merge_of_parameters x.parameters_eq)
  have hinlined : e.inlined scope = Parameters.mergeKeyed (e.inherited scope) (e.own scope) := by
    rw [Entry.inlined, x.parameters_eq]
    exact hmerged
  have hread := Parameters.readAs_of_extractAll x.imports_eq
  have hdestinations := Parameters.filterMap_destination hread
  rw [hmerged] at hread hdestinations
  have hsent {p : Value.Entries} {d : String × Location}
      (hp : p ∈ Parameters.mergeKeyed (e.inherited scope) (e.own scope))
      (hpd : Parameters.destination? p = some d) :
      ∃ r ∈ x.operation.parameters, Parameters.ReadAs scope.table scope.registry p r := by
    have hlocation := (Parameters.destination?_eq_some.mp hpd).1
    exact exists_of_forall₂_of_mem hread.flip (List.mem_filter.mpr ⟨hp, by rw [hlocation]; rfl⟩)
  have hnames : Parameters.TextNames
      (Parameters.mergeKeyed (e.inherited scope) (e.own scope)) := by
    intro p hp d hpd
    obtain ⟨r, -, hr⟩ := hsent hp hpd
    exact hr.destination.2
  refine ⟨x.operation, rfl, ?_, ?_⟩
  · rw [← hdestinations, Parameters.nodup_destinations, hinlined]
    exact Parameters.pairwise_mergeKeyed hinherited hown hnames
  · intro q hq hfilled d hqd halike
    rw [hinlined] at halike
    obtain ⟨r, hr, hqr⟩ := hsent (Parameters.mem_mergeKeyed.mpr ⟨hfilled, Or.inr hq⟩) hqd
    refine ⟨⟨r, hr, Option.some.inj (hqr.destination.1.symm.trans hqd)⟩, fun r hr hrd => ?_⟩
    obtain ⟨p, hp, hpr⟩ := exists_of_forall₂_of_mem hread hr
    have hpd : Parameters.destination? p = some d := hrd ▸ hpr.destination.1
    obtain ⟨hp, -⟩ := List.mem_filter.mp hp
    rw [← Parameters.eq_of_own hown hnames hq hfilled hp ⟨d, hpd, hqd⟩ (halike p hp hpd)]
    exact hpr

/-- The path lists a limit and a trace, and the operation replaces the limit, once in the query and
once, as another parameter, in the header. -/
theorem one_per_destination_limits :
    let param (name location type : String) : Value.Entries :=
      [(.str "name", .str name), (.str "in", .str location), (.str "type", .str type)]
    let inherited := [param "limit" "query" "integer", param "trace" "header" "string"]
    let own := [param "limit" "query" "string", param "limit" "header" "string",
      param "token" "matrix" "string"]
    let scope : Scope := ⟨.typeScript, [], .map [], .str "pet"⟩
    let e : Entry := ⟨.str "/pets", .list (inherited.map .map), .get,
      [(.str "operationId", .str "list"), (.str "parameters", .list (own.map .map))]⟩
    let o : Operation := ⟨"list", .get, "/pets", none, "", [⟨"trace", .header, "string", false⟩,
      ⟨"limit", .query, "string", false⟩, ⟨"limit", .header, "string", false⟩]⟩
    (e.extract scope).result = .ok ⟨[o], []⟩ ∧ (Parameters.declared (e.inherited scope)).Nodup ∧
      (Parameters.declared (e.own scope)).Nodup ∧
      ∃ o', [o] = [o'] ∧ OnePerDestination scope e o' := by
  intro param inherited own scope e o
  have hrun : (e.extract scope).result = .ok ⟨[o], []⟩ := by decide +kernel
  have hinherited : (Parameters.declared (e.inherited scope)).Nodup := by
    have hdeclared : Parameters.declared (e.inherited scope) =
        [(.str "limit", .query), (.str "trace", .header)] := by rfl
    rw [hdeclared]
    simp
  have hown : (Parameters.declared (e.own scope)).Nodup := by
    have hdeclared : Parameters.declared (e.own scope) =
        [(.str "limit", .query), (.str "limit", .header)] := by rfl
    rw [hdeclared]
    simp
  exact ⟨hrun, hinherited, hown, one_per_destination hrun hinherited hown⟩

/-- The path lists a limit and does not say where it is sent, which is the query. The operation
lists a limit in the query, and has two limits in the query then. -/
theorem limit_sent_twice :
    let inherited : Value.Entries := [(.str "name", .str "limit"), (.str "type", .str "integer")]
    let own : Value.Entries :=
      [(.str "name", .str "limit"), (.str "in", .str "query"), (.str "type", .str "string")]
    let scope : Scope := ⟨.typeScript, [], .map [], .str "pet"⟩
    let e : Entry := ⟨.str "/pets", .list [.map inherited], .get,
      [(.str "operationId", .str "list"), (.str "parameters", .list [.map own])]⟩
    let o : Operation := ⟨"list", .get, "/pets", none, "",
      [⟨"limit", .query, "number", false⟩, ⟨"limit", .query, "string", false⟩]⟩
    (e.extract scope).result = .ok ⟨[o], []⟩ ∧ e.inherited scope = [inherited] ∧
      e.own scope = [own] ∧ (Parameters.declared [inherited]).Nodup ∧
      (Parameters.declared [own]).Nodup ∧
      Parameters.destination? inherited = some ("limit", .query) ∧
      Parameters.destination? own = some ("limit", .query) ∧
      ¬ (o.parameters.map Parameter.destination).Nodup := by
  intro inherited own scope e o
  refine ⟨by decide +kernel, rfl, rfl, ?_, ?_, by decide +kernel, by decide +kernel, by decide⟩
  · exact List.pairwise_singleton _ (Value.str "limit", Location.query)
  · exact List.pairwise_singleton _ (Value.str "limit", Location.query)

end Operations
end ClientCompiler
