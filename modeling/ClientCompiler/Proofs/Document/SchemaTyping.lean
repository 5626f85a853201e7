import ClientCompiler.Proofs.Document.Properties
import ClientCompiler.Proofs.Types.Printing

/-!
Two ways to type a schema. A property of a model looks for a reference first, under types that are
written `array`, and spells out its type only where there is none; parameters and responses go along
the chain once, under every type that spells an array. Both give the same type, except where a
reference lies under an array that is written in another way: the property does not see it.
-/

namespace ClientCompiler.Schema

open TwoPass (PropertyAt typeSource schemaFields TypeSource)

variable {table : TypeTable}

def isTextOrNull (v : Value) : Bool := v.isStr || v.isNull

def Link.isTextual : Link → Bool
  | .schema s => isTextOrNull (Value.fieldD "$ref" s) && isTextOrNull (Value.fieldD "type" s)
  | .endless => true

/-- The references and the types along a chain are texts or absent. -/
def Textual (c : List Link) : Prop := ∀ l ∈ c, l.isTextual = true

instance (c : List Link) : Decidable (Textual c) :=
  inferInstanceAs (Decidable (∀ l ∈ c, l.isTextual = true))

def textOf : Value → String
  | .str s => s
  | _ => ""

def reference? (table : TypeTable) (s : Value.Entries) : Option TypeNode :=
  (Reference.nameOf (textOf (Value.fieldD "$ref" s))).map (TypeNode.ofString table)

def spelledType (table : TypeTable) (s : Value.Entries) : TypeNode :=
  TypeNode.ofString table (textOf (Value.fieldD "type" s))

/-- Whether a schema is an array of what its items are: no reference, and a type that spells an
array and none of its elements. -/
def isArrayOfItems (table : TypeTable) (s : Value.Entries) : Bool :=
  (reference? table s).isNone && (spelledType table s).isArray &&
    (spelledType table s).generics.isEmpty

/-- The type that is named by the reference to which arrays lead from a schema. -/
def reached? (table : TypeTable) : List Link → Option TypeNode
  | .schema s :: rest =>
    match reference? table s with
    | some t => some t
    | none => if isArrayOfItems table s then reached? table rest else none
  | _ => none

/-- Whether arrays lead to a reference, and the type of one of them is not written `array`. -/
def hidesReference (table : TypeTable) : List Link → Bool
  | .schema s :: rest =>
    isArrayOfItems table s &&
      if saysArray (Value.fieldD "type" s) then hidesReference table rest
      else (reached? table rest).isSome
  | _ => false

theorem Textual.tail {l : Link} {rest : List Link} (h : Textual (l :: rest)) : Textual rest :=
  fun k hk => h k (List.mem_cons_of_mem l hk)

theorem Textual.head {s : Value.Entries} {rest : List Link} (h : Textual (.schema s :: rest)) :
    isTextOrNull (Value.fieldD "$ref" s) = true ∧ isTextOrNull (Value.fieldD "type" s) = true :=
  Bool.and_eq_true_iff.mp (h (.schema s) List.mem_cons_self)

theorem nameOf_empty : Reference.nameOf "" = none := by decide +kernel

theorem ofString_empty : TypeNode.ofString table "" = TypeNode.any := by
  simp [TypeNode.ofString, TypeNode.ofChars, Spelling.parse]

section Link

variable {s : Value.Entries} {rest : List Link}

theorem Textual.target? (h : Textual (.schema s :: rest)) :
    Reference.target? table (Value.fieldD "$ref" s) = .ok (reference? table s) := by
  have htext := h.head.1
  unfold reference?
  cases hv : Value.fieldD "$ref" s with
  | str r => rfl
  | null => exact congrArg _ (congrArg _ nameOf_empty).symm
  | _ => simp [hv, isTextOrNull, Value.isStr, Value.isNull] at htext

theorem Textual.ofValue (h : Textual (.schema s :: rest)) :
    TypeNode.ofValue table (Value.fieldD "type" s) = .ok (spelledType table s) := by
  have htext := h.head.2
  unfold spelledType
  cases hv : Value.fieldD "type" s with
  | str r => rfl
  | null => exact congrArg _ ofString_empty.symm
  | _ => simp [hv, isTextOrNull, Value.isStr, Value.isNull] at htext

theorem referenceTarget?_schema (h : Textual (.schema s :: rest)) :
    referenceTarget? table (.schema s :: rest) =
      match reference? table s with
      | some t => .ok (some t)
      | none =>
        if saysArray (Value.fieldD "type" s) then
          (referenceTarget? table rest).map (·.map TypeNode.arrayOf)
        else .ok none := by
  rw [referenceTarget?, h.target?]
  cases reference? table s with
  | some t => rfl
  | none => rfl

theorem inlineType_schema (h : Textual (.schema s :: rest)) :
    inlineType table (.schema s :: rest) =
      if (spelledType table s).isArray && (spelledType table s).generics.isEmpty && !rest.isEmpty
      then (inlineType table rest).map TypeNode.arrayOf
      else .ok (spelledType table s) := by
  rw [inlineType, h.ofValue]
  cases hcond : (spelledType table s).isArray && (spelledType table s).generics.isEmpty &&
      !rest.isEmpty with
  | false => simp [hcond, bind, Except.bind, pure, Except.pure]
  | true => simp [hcond, bind, Except.bind, pure, Except.pure, Except.map]

theorem spelledType_of_not_truthy (h : Textual (.schema s :: rest))
    (hfalse : (Value.fieldD "type" s).truthy = false) : spelledType table s = TypeNode.any := by
  have htext := h.head.2
  unfold spelledType
  cases hv : Value.fieldD "type" s with
  | str r =>
    have hr : r = "" := by simpa [hv, Value.truthy] using hfalse
    rw [hr]
    exact ofString_empty
  | null => exact ofString_empty
  | _ => simp [hv, isTextOrNull, Value.isStr, Value.isNull] at htext

variable {registry : List String} {context : Option String}

/-- A type that is absent spells the same as `any`, so that there is no case for it. -/
theorem fieldType_schema (hany : TypeNode.ofString table "any" = TypeNode.any)
    (h : Textual (.schema s :: rest)) :
    fieldType table registry context (.schema s :: rest) =
      match reference? table s with
      | some t => ⟨.ok t, danglingLog table registry context t⟩
      | none =>
        if (spelledType table s).isArray && (spelledType table s).generics.isEmpty && !rest.isEmpty
        then (fieldType table registry context rest).bind fun t => Traced.pure (TypeNode.arrayOf t)
        else Traced.pure (spelledType table s) := by
  rw [fieldType, h.target?, Traced.bind_eq, Traced.lift_ok_bind]
  cases reference? table s with
  | some t => rfl
  | none =>
    cases htruthy : (Value.fieldD "type" s).truthy with
    | false =>
      have hplain : TypeNode.any.isArray = false := by decide
      rw [spelledType_of_not_truthy h htruthy]
      simp [htruthy, hany, hplain]
    | true =>
      simp [htruthy, h.ofValue, Traced.lift_ok_bind]

end Link

theorem spelledType_of_saysArray (harray : TypeNode.ofString table "array" = .node "array" [])
    {s : Value.Entries} (h : saysArray (Value.fieldD "type" s) = true) :
    spelledType table s = .node "array" [] := by
  unfold spelledType
  cases hv : Value.fieldD "type" s with
  | str r =>
    rw [hv] at h
    obtain rfl : r = "array" := eq_of_beq h
    exact harray
  | _ =>
    rw [hv] at h
    cases h

theorem danglingLog_arrayOf (registry : List String) (context : Option String) (t : TypeNode) :
    danglingLog table registry context (TypeNode.arrayOf t) =
      danglingLog table registry context t := by
  simp [danglingLog]

section Chains

variable {registry : List String} {context : Option String}

/-- Where a property finds a reference, so do parameters and responses. The induction is on the
chain; both go on below `array`. -/
theorem fieldType_of_reference (hany : TypeNode.ofString table "any" = TypeNode.any)
    (harray : TypeNode.ofString table "array" = .node "array" []) {c : List Link} {t : TypeNode}
    (htext : Textual c) (h : referenceTarget? table c = .ok (some t)) :
    fieldType table registry context c = ⟨.ok t, danglingLog table registry context t⟩ := by
  induction c generalizing t with
  | nil => cases h
  | cons l rest ih =>
    cases l with
    | endless => cases h
    | schema s =>
      rw [referenceTarget?_schema htext] at h
      rw [fieldType_schema hany htext]
      cases href : reference? table s with
      | some u =>
        rw [href] at h
        cases h
        rfl
      | none =>
        simp only [href] at h ⊢
        by_cases hsays : saysArray (Value.fieldD "type" s) = true
        · rw [if_pos hsays, map_eq_ok] at h
          obtain ⟨found, hrest, hfound⟩ := h
          obtain ⟨u, rfl, rfl⟩ := Option.map_eq_some_iff.mp hfound
          have hne : rest ≠ [] := by
            rintro rfl
            cases hrest
          have hcond : ((TypeNode.node "array" []).isArray &&
              (TypeNode.node "array" []).generics.isEmpty && !rest.isEmpty) = true := by
            simpa [TypeNode.isArray] using hne
          rw [spelledType_of_saysArray harray hsays, if_pos hcond, ih htext.tail hrest,
            danglingLog_arrayOf]
          simp [Traced.bind, Traced.pure]
        · rw [if_neg hsays] at h
          cases h

theorem fieldType_of_inline (hany : TypeNode.ofString table "any" = TypeNode.any) {c : List Link}
    {t : TypeNode} (htext : Textual c) (hne : c ≠ []) (hreached : reached? table c = none)
    (h : inlineType table c = .ok t) :
    fieldType table registry context c = ⟨.ok t, []⟩ := by
  induction c generalizing t with
  | nil => exact absurd rfl hne
  | cons l rest ih =>
    cases l with
    | endless => cases h
    | schema s =>
      rw [inlineType_schema htext] at h
      rw [fieldType_schema hany htext]
      rw [reached?] at hreached
      cases href : reference? table s with
      | some u =>
        rw [href] at hreached
        cases hreached
      | none =>
        simp only [href] at hreached ⊢
        split at h
        · next hcond =>
          rw [if_pos hcond]
          rw [Bool.and_eq_true] at hcond
          have hitems : isArrayOfItems table s = true := by
            simpa [isArrayOfItems, href] using hcond.1
          rw [if_pos hitems] at hreached
          obtain ⟨u, hrest, rfl⟩ := map_eq_ok.mp h
          have hrestne : rest ≠ [] := by simpa using hcond.2
          rw [ih htext.tail hrestne hreached hrest]
          rfl
        · next hcond =>
          rw [if_neg hcond]
          cases h
          rfl

theorem reached?_eq_none {c : List Link} (htext : Textual c)
    (hseen : hidesReference table c = false) (h : referenceTarget? table c = .ok none) :
    reached? table c = none := by
  induction c with
  | nil => rfl
  | cons l rest ih =>
    cases l with
    | endless => rfl
    | schema s =>
      rw [referenceTarget?_schema htext] at h
      rw [reached?]
      cases href : reference? table s with
      | some u =>
        rw [href] at h
        cases h
      | none =>
        simp only [href] at h ⊢
        split
        · next hitems =>
          rw [hidesReference, hitems, Bool.true_and] at hseen
          by_cases hsays : saysArray (Value.fieldD "type" s) = true
          · rw [if_pos hsays] at h hseen
            obtain ⟨found, hrest, hfound⟩ := map_eq_ok.mp h
            obtain rfl := Option.map_eq_none_iff.mp hfound
            exact ih htext.tail hseen hrest
          · rw [if_neg hsays] at hseen
            exact Option.isNone_iff_eq_none.mp (Option.isSome_eq_false_iff.mp hseen)
        · rfl

theorem isArrayOfItems_of_saysArray (harray : TypeNode.ofString table "array" = .node "array" [])
    {s : Value.Entries} (href : reference? table s = none)
    (h : saysArray (Value.fieldD "type" s) = true) : isArrayOfItems table s = true := by
  rw [isArrayOfItems, href, spelledType_of_saysArray harray h]
  rfl

theorem innermost_of_reference (harray : TypeNode.ofString table "array" = .node "array" [])
    {c : List Link} {t : TypeNode} (htext : Textual c)
    (h : referenceTarget? table c = .ok (some t)) :
    ∃ u, reached? table c = some u ∧ u.innermost = t.innermost := by
  induction c generalizing t with
  | nil => cases h
  | cons l rest ih =>
    cases l with
    | endless => cases h
    | schema s =>
      rw [referenceTarget?_schema htext] at h
      rw [reached?]
      cases href : reference? table s with
      | some u =>
        rw [href] at h
        cases h
        exact ⟨t, rfl, rfl⟩
      | none =>
        simp only [href] at h ⊢
        split at h
        · next hsays =>
          rw [if_pos (isArrayOfItems_of_saysArray harray href hsays)]
          obtain ⟨found, hrest, hfound⟩ := map_eq_ok.mp h
          obtain ⟨u, rfl, rfl⟩ := Option.map_eq_some_iff.mp hfound
          obtain ⟨v, hv, hinner⟩ := ih htext.tail hrest
          exact ⟨v, hv, by rw [hinner, TypeNode.innermost_arrayOf]⟩
        · cases h

theorem referenceTarget?_of_hidesReference {c : List Link} (htext : Textual c)
    (h : hidesReference table c = true) : referenceTarget? table c = .ok none := by
  induction c with
  | nil => cases h
  | cons l rest ih =>
    cases l with
    | endless => cases h
    | schema s =>
      rw [hidesReference, Bool.and_eq_true] at h
      obtain ⟨hitems, hhidden⟩ := h
      have href : reference? table s = none := by
        simp only [isArrayOfItems, Bool.and_eq_true, Option.isNone_iff_eq_none] at hitems
        exact hitems.1.1
      rw [referenceTarget?_schema htext]
      simp only [href]
      split
      · next hsays =>
        rw [if_pos hsays] at hhidden
        rw [ih htext.tail hhidden]
        rfl
      · rfl

variable (context) in
theorem fieldType_of_typeSource (hany : TypeNode.ofString table "any" = TypeNode.any)
    (harray : TypeNode.ofString table "array" = .node "array" []) {schema : Value.Entries}
    {source : TypeSource} (htext : Textual (chain schema))
    (hseen : hidesReference table (chain schema) = false)
    (hknown : ∀ t ∈ reached? table (chain schema), t.innermost.name ∈ registry)
    (h : typeSource table schema = .ok source) :
    ∃ node, fieldType table registry context (chain schema) = ⟨.ok node, []⟩ ∧
      source.type registry = node.text ∧ source.missing? registry = none := by
  obtain ⟨found, htarget, h⟩ := bind_eq_ok.mp h
  cases found with
  | some t =>
    obtain rfl := pure_eq_ok.mp h
    obtain ⟨u, hu, hinner⟩ := innermost_of_reference harray htext htarget
    have hmem : t.innermost.name ∈ registry := hinner ▸ hknown u hu
    refine ⟨t, ?_, if_pos hmem, if_pos hmem⟩
    rw [fieldType_of_reference hany harray htext htarget]
    simp [danglingLog, hmem]
  | none =>
    obtain ⟨node, hnode, h⟩ := bind_eq_ok.mp h
    obtain rfl := pure_eq_ok.mp h
    have hreached := reached?_eq_none htext hseen htarget
    exact ⟨node, fieldType_of_inline hany htext (chain_ne_nil schema) hreached hnode, rfl, rfl⟩

end Chains

/-- A property of a model has the type of a parameter or a response with the same schema, and
neither is reported: every warning on the models is about a property at another place. The reference
to which arrays lead has to be known, and none of these arrays may be written in another way than
`array`. -/
theorem property_typed_as_field {kvs : Value.Entries} {models : List Model}
    {log : List Diagnostic} (hrun : modelsOf .typeScript (.map kvs) = ⟨.ok models, log⟩)
    {owner : String} {i : Nat} {key : Value} {schema : Value.Entries}
    (hplace : PropertyAt .typeScript kvs owner i (key, .map schema))
    (htext : Textual (chain schema))
    (hknown : ∀ t ∈ reached? .typeScript (chain schema),
      t.innermost.name ∈ models.map (·.name))
    (hseen : hidesReference .typeScript (chain schema) = false) (context : Option String) :
    ∃ node, fieldType .typeScript (models.map (·.name)) context (chain schema) = ⟨.ok node, []⟩ ∧
      (∃ m ∈ models, m.name = owner ∧ ∃ p, m.properties[i]? = some p ∧ p.type = node.text) ∧
      ∀ d ∈ log, d.level = .warning → ∃ owner' i' property name, (owner', i') ≠ (owner, i) ∧
        PropertyAt .typeScript kvs owner' i' property ∧
        d = .unresolved name (some (owner' ++ "." ++ Shape.textD property.1)) := by
  have hany : TypeNode.ofString .typeScript "any" = TypeNode.any :=
    TypeNode.ofString_of_fixed (by decide) (by decide)
  have harray : TypeNode.ofString .typeScript "array" = .node "array" [] :=
    TypeNode.ofString_of_fixed (by decide) (by decide)
  obtain ⟨source, hsource, m, hm, howner, p, hp, _, htype⟩ := TwoPass.type_of_property hrun hplace
  obtain ⟨node, hfield, hnode, hmissing⟩ :=
    fieldType_of_typeSource context hany harray htext hseen hknown hsource
  refine ⟨node, hfield, ⟨m, hm, howner, p, hp, htype.trans hnode⟩, ?_⟩
  intro d hd hwarning
  obtain ⟨owner', i', property, target, hplace', htarget, hunknown, rfl⟩ :=
    TwoPass.property_of_warning hrun hd hwarning
  refine ⟨owner', i', property, _, ?_, hplace', rfl⟩
  rintro ⟨⟩
  obtain rfl := hplace'.unique hplace
  obtain rfl := Except.ok.inj (hsource.symm.trans htarget)
  exact absurd (if_neg hunknown) (by rw [← TypeSource.missing?, hmissing]; simp)

/-- The owner of pets, as lists of lists. -/
theorem property_typed_as_field_nested :
    let pet : Value := .map [(.str "$ref", .str "#/definitions/Pet")]
    let litter : Value := .map [(.str "type", .str "array"), (.str "items", pet)]
    let schema : Value.Entries := [(.str "type", .str "array"), (.str "items", litter)]
    let fields : Value.Entries := [(.str "properties", .map [(.str "litters", .map schema)])]
    let kvs : Value.Entries := [(.str "Owner", .map fields), (.str "Pet", .map [])]
    let models : List Model := [⟨"Owner", none, [], [⟨"litters", "Pet[][]", false, none⟩]⟩,
      ⟨"Pet", none, [], []⟩]
    let log : List Diagnostic := [.modelsRegistered 2 1]
    modelsOf .typeScript (.map kvs) = ⟨.ok models, log⟩ ∧
      PropertyAt .typeScript kvs "Owner" 0 (.str "litters", .map schema) ∧
      Textual (chain schema) ∧
      (∀ t ∈ reached? .typeScript (chain schema), t.innermost.name ∈ models.map (·.name)) ∧
      hidesReference .typeScript (chain schema) = false ∧
      ∃ node, fieldType .typeScript (models.map (·.name)) none (chain schema) = ⟨.ok node, []⟩ ∧
        (∃ m ∈ models, m.name = "Owner" ∧ ∃ p, m.properties[0]? = some p ∧ p.type = node.text) ∧
        ∀ d ∈ log, d.level = .warning → ∃ owner' i' property name,
          (owner', i') ≠ ("Owner", 0) ∧ PropertyAt .typeScript kvs owner' i' property ∧
          d = .unresolved name (some (owner' ++ "." ++ Shape.textD property.1)) := by
  intro pet litter schema fields kvs models log
  have hrun : modelsOf .typeScript (.map kvs) = ⟨.ok models, log⟩ := by decide +kernel
  have howner : TwoPass.declaredName? .typeScript (.str "Owner", .map fields) = some "Owner" := by
    decide +kernel
  have hplace : PropertyAt .typeScript kvs "Owner" 0 (.str "litters", .map schema) := by
    refine ⟨.str "Owner", fields, [(.str "litters", .map schema)],
      List.find?_cons_of_pos (by rw [howner]; rfl), ?_, rfl⟩
    simp [fields, Shape.orEmptyMap, Shape.entries, Value.fieldD, Value.field, Value.truthy]
  have htext : Textual (chain schema) := by decide +kernel
  have hknown : ∀ t ∈ reached? .typeScript (chain schema),
      t.innermost.name ∈ models.map (·.name) := by decide +kernel
  have hseen : hidesReference .typeScript (chain schema) = false := by decide +kernel
  exact ⟨hrun, hplace, htext, hknown, hseen,
    property_typed_as_field hrun hplace htext hknown hseen none⟩

/-- Where the array is written `List`, the reference below it is not seen: the property is a list of
anything, and the parameter a list of pets. -/
theorem hidden_reference_untyped :
    let pet : Value := .map [(.str "$ref", .str "#/definitions/Pet")]
    let schema : Value.Entries := [(.str "type", .str "List"), (.str "items", pet)]
    let fields : Value.Entries := [(.str "properties", .map [(.str "pets", .map schema)])]
    let kvs : Value.Entries := [(.str "Pet", .map []), (.str "Owner", .map fields)]
    let models : List Model := [⟨"Pet", none, [], []⟩,
      ⟨"Owner", none, [], [⟨"pets", "any[]", false, none⟩]⟩]
    modelsOf .typeScript (.map kvs) = ⟨.ok models, [.modelsRegistered 2 0]⟩ ∧
      PropertyAt .typeScript kvs "Owner" 0 (.str "pets", .map schema) ∧
      Textual (chain schema) ∧
      (∀ t ∈ reached? .typeScript (chain schema), t.innermost.name ∈ models.map (·.name)) ∧
      ∃ node, fieldType .typeScript (models.map (·.name)) none (chain schema) = ⟨.ok node, []⟩ ∧
        node.text = "Pet[]" ∧
        ¬∃ m ∈ models, m.name = "Owner" ∧ ∃ p, m.properties[0]? = some p ∧ p.type = node.text := by
  intro pet schema fields kvs models
  have hpet : TwoPass.declaredName? .typeScript (.str "Pet", .map []) = some "Pet" := by
    decide +kernel
  have howner : TwoPass.declaredName? .typeScript (.str "Owner", .map fields) = some "Owner" := by
    decide +kernel
  have hplace : PropertyAt .typeScript kvs "Owner" 0 (.str "pets", .map schema) := by
    refine ⟨.str "Owner", fields, [(.str "pets", .map schema)], ?_, ?_, rfl⟩
    · rw [List.find?_cons_of_neg (by rw [hpet]; decide),
        List.find?_cons_of_pos (by rw [howner]; rfl)]
    · simp [fields, Shape.orEmptyMap, Shape.entries, Value.fieldD, Value.field, Value.truthy]
  refine ⟨by decide +kernel, hplace, by decide +kernel, by decide +kernel,
    .node "array" [.node "Pet" []], by decide +kernel, by decide +kernel, ?_⟩
  decide +kernel

end ClientCompiler.Schema
