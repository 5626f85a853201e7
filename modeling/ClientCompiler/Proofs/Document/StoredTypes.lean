import ClientCompiler.Proofs.Document.Routes
import ClientCompiler.Proofs.Types.Settled

/-!
Stored types. Where every text that is read as a type is blank or a spelling, every type that a
compilation stores is settled. A type is stored for a property, as a reference, spelt out, or as the
stand-in for a reference to nothing; or for a parameter or a result, as either of the first two.
-/

namespace ClientCompiler

open Spelling (Legible Settled)

namespace Schema

/-- The texts from which the type of a schema is read: its `type`, and the name of its reference. -/
def typeTexts (s : Value.Entries) : List String :=
  (match Value.fieldD "type" s with
    | .str text => [text]
    | _ => []) ++ (definitionName? s).toList

def textsAlong : List Link → List String
  | [] => []
  | .schema s :: rest => typeTexts s ++ textsAlong rest
  | .endless :: rest => textsAlong rest

def LegibleChain (c : List Link) : Prop := ∀ text ∈ textsAlong c, Legible text

namespace LegibleChain

variable {s : Value.Entries} {rest : List Link} (h : LegibleChain (.schema s :: rest))

include h

theorem type (text : String) (htext : Value.fieldD "type" s = .str text) : Legible text := by
  refine h text (List.mem_append_left _ (List.mem_append_left _ ?_))
  rw [htext]
  exact List.mem_singleton_self text

theorem reference (name : String) (hname : definitionName? s = some name) : Legible name :=
  h name (List.mem_append_left _ (List.mem_append_right _ (Option.mem_toList.mpr hname)))

theorem tail : LegibleChain rest := fun text htext => h text (List.mem_append_right _ htext)

end LegibleChain

variable {table : TypeTable} (h : table.Settles)

include h

theorem spellable_ofValue {v : Value} {t : TypeNode} (hlegible : ∀ s, v = .str s → Legible s)
    (hread : TypeNode.ofValue table v = .ok t) : t.Spellable table := by
  unfold TypeNode.ofValue at hread
  split at hread
  · next s =>
    rw [← Except.ok.inj hread]
    exact Spelling.spellable_ofString h (hlegible s rfl)
  · split at hread
    · rw [← Except.ok.inj hread]
      exact TypeNode.spellable_any h
    · cases hread
  · split at hread
    · cases hread
    · rw [← Except.ok.inj hread]
      exact TypeNode.spellable_any h

theorem spellable_target? {s : Value.Entries}
    (hs : ∀ name, definitionName? s = some name → Legible name) {found : Option TypeNode}
    (hfound : Reference.target? table (Value.fieldD "$ref" s) = .ok found) {t : TypeNode}
    (ht : found = some t) : t.Spellable table := by
  rw [definitionName?_of_target? hfound] at ht
  obtain ⟨name, hname, rfl⟩ := Option.map_eq_some_iff.mp ht
  exact Spelling.spellable_ofString h (hs name hname)

theorem spellable_referenceTarget? {c : List Link} (hc : LegibleChain c) {t : TypeNode}
    (hread : referenceTarget? table c = .ok (some t)) : t.Spellable table := by
  induction c generalizing t with
  | nil => cases hread
  | cons l rest ih =>
    cases l with
    | endless => cases hread
    | schema s =>
      obtain ⟨found, hfound, hread⟩ := bind_eq_ok.mp hread
      split at hread
      · next u =>
        obtain rfl := Option.some.inj (pure_eq_ok.mp hread)
        exact spellable_target? h hc.reference hfound rfl
      · split at hread
        · obtain ⟨below, hbelow, hread⟩ := bind_eq_ok.mp hread
          obtain ⟨u, rfl, rfl⟩ := Option.map_eq_some_iff.mp (pure_eq_ok.mp hread)
          exact (ih hc.tail hbelow).arrayOf
        · cases pure_eq_ok.mp hread

theorem spellable_inlineType {c : List Link} (hc : LegibleChain c) {t : TypeNode}
    (hread : inlineType table c = .ok t) : t.Spellable table := by
  induction c generalizing t with
  | nil =>
    rw [← Except.ok.inj hread]
    exact TypeNode.spellable_any h
  | cons l rest ih =>
    cases l with
    | endless => cases hread
    | schema s =>
      obtain ⟨node, hnode, hread⟩ := bind_eq_ok.mp hread
      split at hread
      · obtain ⟨element, helement, hread⟩ := bind_eq_ok.mp hread
        rw [← pure_eq_ok.mp hread]
        exact (ih hc.tail helement).arrayOf
      · rw [← pure_eq_ok.mp hread]
        exact spellable_ofValue h hc.type hnode

theorem spellable_fieldType {registry : List String} {context : Option String} {c : List Link}
    (hc : LegibleChain c) {t : TypeNode}
    (hread : (fieldType table registry context c).result = .ok t) : t.Spellable table := by
  induction c generalizing t with
  | nil =>
    rw [← Except.ok.inj hread]
    exact TypeNode.spellable_any h
  | cons l rest ih =>
    cases l with
    | endless => cases hread
    | schema s =>
      obtain ⟨found, hfound, hread⟩ := Traced.result_bind_eq_ok.mp hread
      split at hread
      · next u =>
        rw [← Except.ok.inj hread]
        exact spellable_target? h hc.reference hfound rfl
      · dsimp only at hread
        split at hread
        · rw [← Except.ok.inj hread,
            TypeNode.ofString_of_fixed (by decide) (TypeTable.canonicalName_of_not_renamed h.any)]
          exact TypeNode.spellable_any h
        · obtain ⟨node, hnode, hread⟩ := Traced.result_bind_eq_ok.mp hread
          split at hread
          · obtain ⟨element, helement, hread⟩ := Traced.result_bind_eq_ok.mp hread
            rw [← Except.ok.inj hread]
            exact (ih hc.tail helement).arrayOf
          · rw [← Except.ok.inj hread]
            exact spellable_ofValue h hc.type hnode

end Schema

namespace TwoPass

theorem settled_typeSource {table : TypeTable} (h : table.Settles) {schema : Value.Entries}
    (hc : Schema.LegibleChain (Schema.chain schema)) {source : TypeSource}
    (hsource : typeSource table schema = .ok source) (registered : List String) :
    Settled table (source.type registered) := by
  have hany : Settled table "any" :=
    TypeNode.text_any ▸ Spelling.settled_text h (TypeNode.spellable_any h)
  obtain ⟨found, hfound, hsource⟩ := bind_eq_ok.mp hsource
  cases found with
  | some target =>
    rw [← pure_eq_ok.mp hsource, TypeSource.type]
    split
    · exact Spelling.settled_text h (Schema.spellable_referenceTarget? h hc hfound)
    · exact hany
  | none =>
    obtain ⟨node, hnode, hsource⟩ := bind_eq_ok.mp hsource
    rw [← pure_eq_ok.mp hsource, TypeSource.type]
    exact Spelling.settled_text h (Schema.spellable_inlineType h hc hnode)

end TwoPass

/-- All texts that are read as types of properties, parameters and results are legible. -/
structure LegibleDocument (table : TypeTable) (fields : Value.Entries) : Prop where
  properties : ∀ owner i property,
    TwoPass.PropertyAt table (definitionEntries fields) owner i property →
      Schema.LegibleChain (Schema.chain (TwoPass.schemaFields property.2))
  operations : ∀ e ∈ Operations.entriesOfDocument (.map fields),
    ∀ schema ∈ e.schemas (Modules.sharedOf fields), Schema.LegibleChain (Schema.chain schema)

/-- The types that an operation stores. The result has none if nothing is said about it. -/
def Operation.storedTypes (op : Operation) : List String :=
  (if op.returnType = "" then [] else [op.returnType]) ++ op.parameters.map Parameter.type

def Client.storedTypes (c : Client) : List String :=
  c.models.flatMap (fun m => m.properties.map Property.type) ++
    c.modules.flatMap fun m => m.operations.flatMap Operation.storedTypes

theorem mem_storedTypes_of_signature {scope : Operations.Scope} {e : Operations.Entry}
    {s : Signature} {op : Operation} (h : Signature.Of scope e s op) {text : String}
    (htext : text ∈ op.storedTypes) : ∃ t ∈ s.trees, t.text = text := by
  rcases List.mem_append.mp htext with hresult | hparameters
  · split at hresult
    · cases hresult
    · next hne =>
      obtain rfl := List.mem_singleton.mp hresult
      cases hs : s.result with
      | none => exact absurd (h.returnType_empty.mpr hs) hne
      | some t =>
        refine ⟨t, List.mem_append_left _ (Option.mem_toList.mpr hs), ?_⟩
        rw [h.returnType_text, hs]
        rfl
  · rw [h.parameters_text] at hparameters
    obtain ⟨t, ht, rfl⟩ := List.mem_map.mp hparameters
    exact ⟨t, List.mem_append_right _ ht, rfl⟩

/-- If all texts of a document that are read as types are legible, every type that is stored is
settled. -/
theorem storedTypes_settled {fields : Value.Entries} {c : Client}
    (hlegible : LegibleDocument .typeScript fields)
    (hrun : (compile .typeScript (.map fields)).result = .ok c) :
    ∀ text ∈ c.storedTypes, Settled .typeScript text := by
  have hsettles := TypeTable.settles_typeScript
  obtain ⟨_, hrun⟩ := Traced.result_eq_ok.mp hrun
  obtain ⟨l, m, hmodels, hmodules, -, -⟩ := compile_eq_returned.mp hrun
  rw [definitionsOf_of_returned hmodels] at hmodels
  intro text htext
  rcases List.mem_append.mp htext with htext | htext
  · obtain ⟨model, hmodel, htext⟩ := List.mem_flatMap.mp htext
    obtain ⟨p, hp, rfl⟩ := List.mem_map.mp htext
    obtain ⟨i, property, hplace, source, hsource, htype⟩ :=
      TwoPass.property_of_model hmodels hmodel hp
    rw [htype]
    exact TwoPass.settled_typeSource hsettles (hlegible.properties _ i property hplace) hsource _
  · obtain ⟨_, hmodule, htext⟩ := List.mem_flatMap.mp htext
    obtain ⟨op, hop, htext⟩ := List.mem_flatMap.mp htext
    obtain ⟨_, tags, hfields, -, htags⟩ := Modules.ofDocument_eq_ok (congrArg Traced.result hmodules)
    obtain rfl := Value.map.inj hfields
    obtain ⟨tag, -, htag⟩ := exists_of_forall₂_of_mem htags hmodule
    obtain ⟨signed, hentries, hoperations, -⟩ := Modules.signed_of_tag htag
    rw [hoperations] at hop
    obtain ⟨x, hx, rfl⟩ := List.mem_map.mp hop
    obtain ⟨e, he, -, hof⟩ := hentries x hx
    obtain ⟨t, ht, rfl⟩ := mem_storedTypes_of_signature hof htext
    obtain ⟨schema, hschema, context, hfield⟩ := Operations.schema_of_tree hof ht
    exact Spelling.settled_text hsettles
      (Schema.spellable_fieldType hsettles (hlegible.operations e he schema hschema) hfield)

/-- Pets with names, friends and an owner who is nowhere defined, and pages of pets that are found by
counts: a type that is spelt out, a reference below an array, the stand-in, a reference of an
operation, and a spelling below an array. -/
theorem storedTypes_settled_pets :
    let ref (name : String) : Value := .map [(.str "$ref", .str ("#/definitions/" ++ name))]
    let typed (text : String) (more : Value.Entries) : Value.Entries := (.str "type", .str text) :: more
    let properties : Value.Entries := [(.str "names", .map (typed "List< String >" [])),
      (.str "friends", .map (typed "array" [(.str "items", ref "Pet")])),
      (.str "owner", ref "Owner")]
    let counts : Value.Entries := [(.str "name", .str "counts"), (.str "in", .str "query")] ++
      typed "array" [(.str "items", .map (typed " Map«String,Long» " []))]
    let operation : Value := .map [(.str "tags", .list [.str "pet"]),
      (.str "operationId", .str "find"), (.str "parameters", .list [.map counts]),
      (.str "responses", .map [(.str "200", .map [(.str "schema", ref "Page«Pet»")])])]
    let fields : Value.Entries := [
      (.str "definitions", .map [(.str "Pet", .map [(.str "properties", .map properties)])]),
      (.str "paths", .map [(.str "/pets", .map [(.str "get", operation)])])]
    let c : Client := ⟨[⟨"Pet", none, [], [⟨"names", "string[]", false, none⟩,
        ⟨"friends", "Pet[]", false, none⟩, ⟨"owner", "any", false, none⟩]⟩],
      [⟨"pet", none, [⟨"find", .get, "/pets", none, "Page<Pet>",
        [⟨"counts", .query, "Record<string,number>[]", false⟩]⟩], ["Page", "Pet"]⟩], fields⟩
    LegibleDocument .typeScript fields ∧ (compile .typeScript (.map fields)).result = .ok c ∧
      ∀ text ∈ c.storedTypes, Settled .typeScript text := by
  intro ref typed properties counts operation fields c
  let texts : List String :=
    ["array", "Pet", "Owner", "List< String >", " Map«String,Long» ", "Page«Pet»"]
  have hlegible : ∀ text ∈ texts, Legible text := by
    let name (s : String) (h : Spelling.IsName s.toList) : Spelling.Spelled := .name ⟨s.toList, h⟩
    let blank : Spelling.Blanks := ⟨[' '], by decide⟩
    let gap : Spelling.Blanks := ⟨[], by decide⟩
    simp only [texts, List.forall_mem_cons]
    refine ⟨Spelling.legible_of_isName (by decide), Spelling.legible_of_isName (by decide),
      Spelling.legible_of_isName (by decide), Or.inr ⟨.generic ⟨"List".toList, by decide⟩ gap .angle
        .angle (.padded blank (name "String" (by decide)) blank) [], by decide +kernel⟩,
      Or.inr ⟨.padded blank (.generic ⟨"Map".toList, by decide⟩ gap .guillemet .guillemet
        (name "String" (by decide)) [name "Long" (by decide)]) blank, by decide +kernel⟩,
      Or.inr ⟨.generic ⟨"Page".toList, by decide⟩ gap .guillemet .guillemet
        (name "Pet" (by decide)) [], by decide +kernel⟩, nofun⟩
  have hproperties : ∀ kv ∈ definitionEntries fields, ∀ property ∈ TwoPass.schemaFields
      (Shape.orEmptyMap (Value.fieldD "properties" (TwoPass.schemaFields kv.2))),
      ∀ text ∈ Schema.textsAlong (Schema.chain (TwoPass.schemaFields property.2)),
        text ∈ texts := by decide +kernel
  have hoperations : ∀ e ∈ Operations.entriesOfDocument (.map fields),
      ∀ schema ∈ e.schemas (Modules.sharedOf fields),
      ∀ text ∈ Schema.textsAlong (Schema.chain schema), text ∈ texts := by decide +kernel
  have hdocument : LegibleDocument .typeScript fields := by
    refine ⟨?_, fun e he schema hschema text htext =>
      hlegible text (hoperations e he schema hschema text htext)⟩
    intro owner i property hplace text htext
    obtain ⟨kv, hkv, hproperty⟩ := hplace.listed
    exact hlegible text (hproperties kv hkv property hproperty text htext)
  have hrun : (compile .typeScript (.map fields)).result = .ok c :=
    Traced.result_eq_ok.mpr ⟨_, compile_eq_returned.mpr
      ⟨[.unresolved "Owner" (some "Pet.owner"), .modelsRegistered 1 2],
        [.unresolved "Page" (some "GET /pets")], by decide +kernel, by decide +kernel,
        source_of_textKeys rfl, rfl⟩⟩
  exact ⟨hdocument, hrun, storedTypes_settled hdocument hrun⟩

end ClientCompiler
