import ClientCompiler.Proofs.Distinct
import ClientCompiler.Proofs.Document.Entries

/-!
Modules and the operations of a document. The tags of operations are collected with one test for
methods, and the operations with another; the tests agree, and no operation is lost between them or
found twice.
-/

namespace ClientCompiler

namespace Operations

def tagText? : Value → Option String
  | .str s => some s
  | _ => none

def Entry.tags (e : Entry) : List String :=
  match Value.fieldD "tags" e.fields with
  | .list xs => xs.filterMap tagText?
  | _ => []

def Entry.wellTagged (e : Entry) : Bool :=
  match Value.fieldD "tags" e.fields with
  | .null => true
  | .list xs => xs.all Value.isStr
  | _ => false

def Entry.taggedBy (tag : Value) (e : Entry) : Bool :=
  match tag with
  | .str s => e.tags.contains s
  | _ => false

structure Entry.Yields (scope : Scope) (e : Entry) (op : Operation) : Prop where
  method : op.method = e.method
  path : ∃ p, e.path = .str p ∧ op.path = Path.interpolate p
  extracted : ∃ imports, (e.extract scope).result = .ok ⟨[op], imports⟩

theorem map_str_of_all {xs : List Value} (h : xs.all Value.isStr = true) :
    (xs.filterMap tagText?).map Value.str = xs := by
  induction xs with
  | nil => rfl
  | cons x xs ih =>
    rw [List.all_cons, Bool.and_eq_true] at h
    cases x with
    | str s => simp [tagText?, ih h.2]
    | _ => cases h.1

theorem Entry.orEmptyList_tags {e : Entry} (h : e.wellTagged = true) :
    Shape.orEmptyList (Value.fieldD "tags" e.fields) = .list (e.tags.map .str) := by
  unfold Entry.wellTagged at h
  unfold Entry.tags
  cases htags : Value.fieldD "tags" e.fields with
  | null => rfl
  | list xs =>
    rw [htags] at h
    simp only [map_str_of_all h]
    cases xs <;> rfl
  | _ =>
    rw [htags] at h
    cases h

theorem same_str (v : Value) (s : String) :
    v.same (.str s) = match v with | .str t => t == s | _ => false := by
  cases v <;> simp [Value.same, Value.asInt?]

theorem Entry.lists_eq_taggedBy {e : Entry} (h : e.wellTagged = true) (tag : Value) :
    e.lists tag = e.taggedBy tag := by
  unfold Entry.lists hasTag Entry.taggedBy
  rw [e.orEmptyList_tags h]
  simp only [Shape.contains, Except.toOption, Option.getD_some, List.any_map, Function.comp_def,
    same_str]
  cases tag with
  | str s => simp [List.any_beq]
  | _ => simp

theorem Entry.members_tags {e : Entry} (h : e.wellTagged = true) :
    Shape.members (Shape.orEmptyList (Value.fieldD "tags" e.fields)) = .ok (e.tags.map .str) := by
  rw [e.orEmptyList_tags h]
  have hhash (ts : List String) : Value.allHashable (ts.map .str) = true := by
    induction ts with
    | nil => rfl
    | cons t ts ih => simp [Value.allHashable, Value.hashable, ih]
  simp [Shape.members, Shape.items, hhash, bind, Except.bind, pure, Except.pure]

theorem yields_of_extract {scope : Scope} {e : Entry} {found : Found}
    (h : (e.extract scope).result = .ok found) :
    ∃ op, found.operations = [op] ∧ e.Yields scope op := by
  obtain ⟨x, rfl⟩ := extraction_of_extract h
  exact ⟨x.operation, rfl, x.method, ⟨x.path, x.path_eq, x.operation_path⟩, ⟨_, h⟩⟩

theorem yields_of_entries {scope : Scope} {entries : List Entry} {fs : List Found}
    (h : List.Forall₂ (fun e f => (e.extract scope).result = .ok f) entries fs) :
    List.Forall₂ (Entry.Yields scope) entries (Found.concat fs).operations := by
  induction h with
  | nil => exact .nil
  | cons hf _ ih =>
    obtain ⟨op, hop, hyields⟩ := yields_of_extract hf
    rw [Found.concat_cons, Found.append, hop]
    exact .cons hyields ih

end Operations

namespace Modules

open Operations (Entry entriesOf entriesOfDocument entriesOfDocument_map entriesOfItem
  entriesOfItem_cons entryMethod? scopeOf value_of_entryMethod?)

/-- Both tests for methods agree. -/
theorem isSome_entryMethod? (key : Value) (fields : Value.Entries) :
    (entryMethod? key (.map fields)).isSome = namesMethod key := by
  cases key with
  | str k =>
    rw [entryMethod?, Option.isSome_map, namesMethod, Bool.eq_iff_iff, Method.ofKey?, Method.ofName?,
      List.find?_isSome, List.contains_iff_mem, List.mem_map]
    simp only [beq_iff_eq]
  | _ => rfl

theorem itemTags_eq {path params : Value} {item : Value.Entries}
    (h : ∀ e ∈ entriesOfItem path params item, e.wellTagged = true) :
    itemTags item = .ok (((entriesOfItem path params item).flatMap Entry.tags).map .str) := by
  induction item with
  | nil => rfl
  | cons kv item ih =>
    obtain ⟨key, value⟩ := kv
    rw [entriesOfItem_cons] at h ⊢
    cases hmethod : entryMethod? key value with
    | none =>
      rw [hmethod] at h
      cases value with
      | map fields =>
        have hname : namesMethod key = false := by
          rw [← isSome_entryMethod? key fields, hmethod]
          rfl
        rw [itemTags, hname]
        exact ih h
      | _ => exact ih h
    | some found =>
      rw [hmethod] at h
      obtain ⟨hhead, hrest⟩ := List.forall_mem_cons.mp h
      obtain rfl := value_of_entryMethod? hmethod
      have hname : namesMethod key = true := by
        rw [← isSome_entryMethod? key found.2, hmethod]
        rfl
      rw [itemTags, hname, if_pos rfl, Entry.members_tags hhead, ih hrest, List.flatMap_cons,
        List.map_append]
      rfl

theorem pathTags_eq {paths : Value.Entries}
    (h : ∀ e ∈ entriesOf paths, e.wellTagged = true) :
    pathTags paths = .ok (((entriesOf paths).flatMap Entry.tags).map .str) := by
  induction paths with
  | nil => rfl
  | cons kv paths ih =>
    obtain ⟨path, value⟩ := kv
    rw [entriesOf, List.flatMap_cons, List.forall_mem_append] at h
    rw [entriesOf, List.flatMap_cons, List.flatMap_append, List.map_append]
    cases value with
    | map item =>
      rw [pathTags, itemTags_eq h.1, ih h.2]
      rfl
    | _ => exact ih h.2

def declared : Value → Value
  | .map fields => Value.fieldD "tags" fields
  | _ => .null

def namedTag? : Value → Option (Value × Value)
  | .map fields =>
    if (Value.fieldD "name" fields).truthy then
      some (Value.fieldD "name" fields, Value.fieldD "description" fields)
    else none
  | _ => none

theorem declaredTags_eq (xs : List Value) : declaredTags xs = xs.filterMap namedTag? := by
  induction xs with
  | nil => rfl
  | cons x xs ih =>
    cases x with
    | map fields =>
      rw [declaredTags, List.filterMap_cons, namedTag?, ih]
      split <;> rfl
    | _ => exact ih

/-- A module of a tag: it has the name and the description of the tag, and one operation for each
entry that lists the tag, in the order of the document. -/
structure GroupsUnder (table : TypeTable) (registry : List String) (document : Value)
    (tag : Value × Value) (m : ApiModule) : Prop where
  name : Shape.text? tag.1 = some m.name
  description : tag.2 = .null ∧ m.description = none ∨
    ∃ s, Shape.text? tag.2 = some s ∧ m.description = some s
  operations : List.Forall₂ (Entry.Yields (scopeOf table registry document tag.1))
    ((entriesOfDocument document).filter (·.taggedBy tag.1)) m.operations

/-- Every operation of a document is in the modules of its tags, once in each, and nothing else is
in them. -/
structure Grouped (table : TypeTable) (registry : List String) (document : Value)
    (modules : List ApiModule) : Prop where
  operations : ∀ m ∈ modules, ∃ tag, GroupsUnder table registry document tag m
  /-- Without declared tags there is a module for each tag of an operation, in the order of first
  occurrence. -/
  derived : declared document = .null →
    modules.map ApiModule.name = ((entriesOfDocument document).flatMap Entry.tags).eraseDups ∧
      (∀ m ∈ modules, GroupsUnder table registry document (.str m.name, .null) m ∧
        m.operations ≠ []) ∧
      ∀ e ∈ entriesOfDocument document,
        ((modules.map ApiModule.name).filter (e.tags.contains ·)).Perm e.tags.eraseDups
  /-- The declared tags that have a name give the modules, in their order. -/
  listed : declared document ≠ .null → ∃ xs, Shape.items (declared document) = .ok xs ∧
    List.Forall₂ (GroupsUnder table registry document) (xs.filterMap namedTag?) modules

variable {table : TypeTable} {registry : List String}

theorem groupsUnder_of_ofTag {fields : Value.Entries} {tag : Value × Value} {m : ApiModule}
    (htagged : ∀ e ∈ entriesOfDocument (.map fields), e.wellTagged = true)
    (h : (ofTag table registry fields tag).result = .ok m) :
    GroupsUnder table registry (.map fields) tag m := by
  obtain ⟨fs, hfs, hname, hreadable, hdescription, hoperations, -⟩ := ofTag_eq_ok h
  refine ⟨hname, ?_, ?_⟩
  · rcases hreadable with hnull | ⟨s, hs⟩
    · left
      rw [hdescription, hnull]
      exact ⟨rfl, rfl⟩
    · right
      exact ⟨s, hs, by rw [hdescription, hs]⟩
  · have hfilter : (entriesOfDocument (.map fields)).filter (·.taggedBy tag.1) =
        (entriesOfDocument (.map fields)).filter (·.lists tag.1) :=
      List.filter_congr fun e he => (Entry.lists_eq_taggedBy (htagged e he) tag.1).symm
    rw [hoperations, hfilter]
    exact Operations.yields_of_entries hfs

theorem tags_of_null {fields : Value.Entries} {found : List (Value × Value)}
    (htagged : ∀ e ∈ entriesOfDocument (.map fields), e.wellTagged = true)
    (hnull : Value.fieldD "tags" fields = .null) (h : tags fields = .ok found) :
    found = ((entriesOfDocument (.map fields)).flatMap Entry.tags).eraseDups.map
      fun n => (.str n, .null) := by
  unfold tags at h
  rw [hnull] at h
  obtain ⟨paths, hpaths, h⟩ := bind_eq_ok.mp h
  rw [entriesOfDocument_map hpaths] at htagged ⊢
  rw [pathTags_eq htagged] at h
  rw [← Except.ok.inj h, distinct_map_str, List.map_map]
  rfl

theorem tags_of_ne_null {fields : Value.Entries} {found : List (Value × Value)}
    (hne : Value.fieldD "tags" fields ≠ .null) (h : tags fields = .ok found) :
    ∃ xs, Shape.items (Value.fieldD "tags" fields) = .ok xs ∧ found = xs.filterMap namedTag? := by
  unfold tags at h
  split at h
  · next hnull => exact absurd hnull hne
  · obtain ⟨xs, hxs, rfl⟩ := map_eq_ok.mp h
    exact ⟨xs, hxs, declaredTags_eq xs⟩

theorem map_name_of_groupsUnder {document : Value} {names : List String} {modules : List ApiModule}
    (h : List.Forall₂ (fun n m => GroupsUnder table registry document (.str n, .null) m)
      names modules) : modules.map ApiModule.name = names := by
  induction h with
  | nil => rfl
  | cons hm _ ih => rw [List.map_cons, ih, ← Option.some.inj hm.name]

/-- Where the tags of operations are absent or lists of texts, the modules group the operations of
the document. -/
theorem operations_grouped {document : Value} {modules : List ApiModule}
    (htagged : ∀ e ∈ entriesOfDocument document, e.wellTagged = true)
    (hrun : (ofDocument table registry document).result = .ok modules) :
    Grouped table registry document modules := by
  obtain ⟨fields, found, rfl, hfound, hmodules⟩ := ofDocument_eq_ok hrun
  have hgroups : List.Forall₂ (GroupsUnder table registry (.map fields)) found modules :=
    hmodules.imp fun _ _ => groupsUnder_of_ofTag htagged
  refine ⟨?_, ?_, ?_⟩
  · intro m hm
    obtain ⟨tag, -, htag⟩ := exists_of_forall₂_of_mem hgroups hm
    exact ⟨tag, htag⟩
  · intro hnull
    obtain rfl := tags_of_null htagged hnull hfound
    rw [List.forall₂_map_left_iff] at hgroups
    have hnames := map_name_of_groupsUnder hgroups
    refine ⟨hnames, ?_, ?_⟩
    · intro m hm
      obtain ⟨n, hn, hgroup⟩ := exists_of_forall₂_of_mem hgroups hm
      obtain rfl : n = m.name := Option.some.inj hgroup.name
      refine ⟨hgroup, ?_⟩
      -- The name comes from an entry, which is then among those that the module groups.
      obtain ⟨e, he, htag⟩ := List.mem_flatMap.mp (List.mem_eraseDups.mp hn)
      have hlength := hgroup.operations.length_eq
      have hmem : e ∈ (entriesOfDocument (.map fields)).filter (·.taggedBy (.str m.name)) :=
        List.mem_filter.mpr ⟨he, List.contains_iff_mem.mpr htag⟩
      intro hempty
      rw [hempty, List.length_nil, List.length_eq_zero_iff] at hlength
      rw [hlength] at hmem
      cases hmem
    · intro e he
      rw [hnames, List.perm_ext_iff_of_nodup ((nodup_eraseDups _).filter _) (nodup_eraseDups _)]
      intro n
      rw [List.mem_filter, List.mem_eraseDups, List.mem_eraseDups, List.mem_flatMap,
        List.contains_iff_mem]
      constructor
      · exact fun h => h.2
      · exact fun h => ⟨⟨e, he, h⟩, h⟩
  · intro hne
    obtain ⟨xs, hxs, rfl⟩ := tags_of_ne_null hne hfound
    exact ⟨xs, hxs, hgroups⟩

/-- A tag that an operation lists twice, methods in capitals, an operation without tags, and an
entry that is not for a method. -/
theorem operations_grouped_pets :
    let operation (name : String) (tags : List String) : Value :=
      .map [(.str "operationId", .str name), (.str "tags", .list (tags.map .str))]
    let pets : Value := .map [(.str "x-get", operation "note" ["note"]),
      (.str "GET", operation "list" ["pet", "store", "pet"]), (.str "Post", operation "add" ["pet"])]
    let store : Value := .map [(.str "get", operation "stock" ["store"]), (.str "put", .map [])]
    let document : Value := .map [(.str "paths", .map [(.str "/pets", pets), (.str "/store", store)])]
    let found (name : String) (method : Method) (path : String) : Operation :=
      ⟨name, method, path, none, "", []⟩
    let modules : List ApiModule := [
      ⟨"pet", none, [found "list" .get "/pets", found "add" .post "/pets"], []⟩,
      ⟨"store", none, [found "list" .get "/pets", found "stock" .get "/store"], []⟩]
    (∀ e ∈ entriesOfDocument document, e.wellTagged = true) ∧
      (ofDocument .typeScript [] document).result = .ok modules ∧
      declared document = .null ∧ Grouped .typeScript [] document modules := by
  intro operation pets store document found modules
  have htagged : ∀ e ∈ entriesOfDocument document, e.wellTagged = true := by decide +kernel
  have hrun : (ofDocument .typeScript [] document).result = .ok modules := by decide +kernel
  exact ⟨htagged, hrun, rfl, operations_grouped htagged hrun⟩

/-- Tags that are declared, but not as an array, leave no modules. A tag that is named by octets
gives a module of that name, and no operation is in it. -/
theorem operations_ungrouped :
    let operation : Value :=
      .map [(.str "operationId", .str "listPets"), (.str "tags", .list [.str "pet"])]
    let document (tags : Value) : Value := .map [(.str "tags", tags),
      (.str "paths", .map [(.str "/pets", .map [(.str "get", operation)])])]
    let empty := document (.map [])
    let octets := document (.list [.map [(.str "name", .bytes [112, 101, 116])]])
    ((∀ e ∈ entriesOfDocument empty, e.wellTagged = true) ∧ (∀ xs, declared empty ≠ .list xs) ∧
      ∃ modules, (ofDocument .typeScript [] empty).result = .ok modules ∧
        modules.map ApiModule.name ≠ ((entriesOfDocument empty).flatMap Entry.tags).eraseDups) ∧
      (∀ e ∈ entriesOfDocument octets, e.wellTagged = true) ∧
      ∃ m, (ofDocument .typeScript [] octets).result = .ok [m] ∧
        m.operations.length ≠
          ((entriesOfDocument octets).filter (·.tags.contains m.name)).length := by
  intro operation document empty octets
  have hdeclared : declared empty = .map [] := rfl
  refine ⟨⟨by decide +kernel, ?_, [], by decide +kernel, by decide +kernel⟩, by decide +kernel,
    ⟨"pet", none, [], []⟩, by decide +kernel, by decide +kernel⟩
  intro xs h
  rw [hdeclared] at h
  cases h

end Modules
end ClientCompiler
