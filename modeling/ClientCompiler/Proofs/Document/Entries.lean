import ClientCompiler.Document.Modules
import ClientCompiler.Proofs.Returning

/-!
The entries of path items that are operations. The two loops over paths and over the keys of a path
item come to one pass over the list of these entries, in the order of the document, and what is
found is joined from what each entry gives. A module holds what the entries give that list its tag.
-/

namespace ClientCompiler

namespace Shape

theorem entries_orEmptyMap {v : Value} {kvs : Value.Entries}
    (h : Shape.entries (Shape.orEmptyMap v) = .ok kvs) : Shape.orEmptyMap v = .map kvs := by
  unfold Shape.entries at h
  split at h
  · next hv => rw [hv, Except.ok.inj h]
  · cases h

theorem accept_eq_ok {issues : List Issue} (h : Shape.accept issues = .ok ()) : issues = [] := by
  unfold Shape.accept at h
  split at h
  · next hempty => exact List.isEmpty_iff.mp hempty
  · cases h

theorem text?_of_textAt {place : String} {v : Value} (h : Shape.textAt place v = []) :
    ∃ s, Shape.text? v = some s := by
  unfold Shape.textAt Validation.text at h
  unfold Shape.text? Validation.text
  cases v with
  | str s => exact ⟨s, rfl⟩
  | bytes b =>
    cases hdecoded : Text.decode? b with
    | some s => exact ⟨String.ofList s, by simp [hdecoded, Except.toOption]⟩
    | none => simp [hdecoded, Checked.refuse, Checked.within] at h
  | _ => simp [Checked.refuse, Checked.within] at h

theorem text?_of_optionalTextAt {place : String} {v : Value}
    (h : Shape.optionalTextAt place v = []) : v = .null ∨ ∃ s, Shape.text? v = some s := by
  unfold Shape.optionalTextAt at h
  split at h
  · exact Or.inl rfl
  · exact Or.inr (text?_of_textAt h)

end Shape

namespace Operations

deriving instance DecidableEq for Found

/-- An operation as it stands in a document: its path, the parameters of its path item, and what
its key and its value say. -/
structure Entry where
  path : Value
  pathParameters : Value
  method : Method
  fields : Value.Entries

def entriesOfItem (path pathParameters : Value) (item : Value.Entries) : List Entry :=
  item.filterMap fun kv =>
    (entryMethod? kv.1 kv.2).map fun (method, fields) => ⟨path, pathParameters, method, fields⟩

def entriesOfPath : Value × Value → List Entry
  | (path, .map item) => entriesOfItem path (Value.fieldD "parameters" item) item
  | _ => []

def entriesOf (paths : Value.Entries) : List Entry := paths.flatMap entriesOfPath

def pathsOf (document : Value.Entries) : Value.Entries :=
  match Shape.orEmptyMap (Value.fieldD "paths" document) with
  | .map paths => paths
  | _ => []

/-- The operations of a document. -/
def entriesOfDocument : Value → List Entry
  | .map fields => entriesOf (pathsOf fields)
  | _ => []

theorem entriesOfDocument_map {fields paths : Value.Entries}
    (h : Shape.entries (Shape.orEmptyMap (Value.fieldD "paths" fields)) = .ok paths) :
    entriesOfDocument (.map fields) = entriesOf paths := by
  rw [entriesOfDocument, pathsOf, Shape.entries_orEmptyMap h]

/-- The paths of objects are texts. -/
def TextPaths (paths : Value.Entries) : Prop := ∀ kv ∈ paths, kv.2.isMap = true → kv.1.isStr = true

/-- The parameters of an entry: those of its path that it does not replace, and its own. -/
def Entry.parameters (scope : Scope) (e : Entry) : Traced (List Value.Entries) := do
  let inherited ← parameterList scope e.pathParameters
  let own ← parameterList scope (Value.fieldD "parameters" e.fields)
  Traced.lift (Parameters.merge inherited own)

/-- The parameters of an entry, each as the object that it stands for. -/
def Entry.inlined (scope : Scope) (e : Entry) : List Value.Entries :=
  (e.parameters scope).result.toOption.getD []

def Entry.extract (scope : Scope) (e : Entry) : Traced Found :=
  match e.path with
  | .str p => Operations.extract scope p e.pathParameters e.method e.fields
  | _ => Traced.fail .unfit

def Entry.found (scope : Scope) (e : Entry) : Traced Found := do
  if ← Traced.lift (hasTag e.fields scope.tag) then e.extract scope else return .empty

def Entry.lists (tag : Value) (e : Entry) : Bool := (hasTag e.fields tag).toOption.getD false

theorem Entry.lists_of_hasTag {e : Entry} {tag : Value} {listed : Bool}
    (h : hasTag e.fields tag = .ok listed) : e.lists tag = listed := by
  rw [Entry.lists, h]
  rfl

def Found.concat (parts : List Found) : Found :=
  ⟨parts.flatMap Found.operations, parts.flatMap Found.imports⟩

theorem Found.concat_cons (f : Found) (fs : List Found) :
    Found.concat (f :: fs) = f.append (Found.concat fs) := by
  simp [Found.concat, Found.append]

theorem Found.concat_append (fs gs : List Found) :
    Found.concat (fs ++ gs) = (Found.concat fs).append (Found.concat gs) := by
  simp [Found.concat, Found.append]

theorem Found.empty_append (f : Found) : Found.empty.append f = f := by
  simp [Found.append, Found.empty]

theorem value_of_entryMethod? {key value : Value} {m : Method × Value.Entries}
    (h : entryMethod? key value = some m) : value = .map m.2 := by
  unfold entryMethod? at h
  split at h
  · obtain ⟨_, _, rfl⟩ := Option.map_eq_some_iff.mp h
    rfl
  · cases h

theorem entriesOfItem_cons (path params : Value) (kv : Value × Value) (item : Value.Entries) :
    entriesOfItem path params (kv :: item) =
      match entryMethod? kv.1 kv.2 with
      | some (method, fields) => ⟨path, params, method, fields⟩ :: entriesOfItem path params item
      | none => entriesOfItem path params item := by
  unfold entriesOfItem
  rw [List.filterMap_cons]
  cases entryMethod? kv.1 kv.2 <;> rfl

section Scope

variable {scope : Scope}

theorem ofItem_eq (p : String) (pathParameters : Value) (item : Value.Entries) :
    ofItem scope p pathParameters item =
      (Traced.each (Entry.found scope) (entriesOfItem (.str p) pathParameters item)).bind
        fun fs => Traced.pure (Found.concat fs) := by
  induction item with
  | nil => rfl
  | cons kv item ih =>
    obtain ⟨key, value⟩ := kv
    rw [entriesOfItem_cons, ofItem]
    cases hmethod : entryMethod? key value with
    | none => exact ih
    | some found =>
      obtain ⟨method, fields⟩ := found
      rw [Traced.each]
      simp only [Entry.found, Entry.extract, Traced.bind_eq, Traced.pure_eq, Traced.bind_assoc,
        Traced.pure_bind, Found.concat_cons]
      -- Both sides ask first whether the entry lists the tag; they go apart only after that.
      congr 1
      funext listed
      cases listed with
      | true => simp only [if_true, ih, Traced.bind_assoc, Traced.pure_bind]
      | false => simp [ih, Found.empty_append]

theorem textPaths_cons {kv : Value × Value} {paths : Value.Entries} :
    TextPaths (kv :: paths) ↔ (kv.2.isMap = true → kv.1.isStr = true) ∧ TextPaths paths :=
  List.forall_mem_cons

theorem textPaths_of_ofPaths {paths : Value.Entries} {found : Found}
    (h : (ofPaths scope paths).result = .ok found) : TextPaths paths := by
  induction paths generalizing found with
  | nil =>
    intro kv hkv
    cases hkv
  | cons kv paths ih =>
    obtain ⟨path, value⟩ := kv
    rw [textPaths_cons]
    cases value with
    | map item =>
      cases path with
      | str p =>
        simp only [ofPaths, Traced.bind_eq, Traced.result_bind_eq_ok] at h
        obtain ⟨_, _, rest, hrest, _⟩ := h
        exact ⟨fun _ => rfl, ih hrest⟩
      | _ => cases h
    | _ => exact ⟨nofun, ih h⟩

theorem ofPaths_eq {paths : Value.Entries} (h : TextPaths paths) :
    ofPaths scope paths =
      (Traced.each (Entry.found scope) (entriesOf paths)).bind
        fun fs => Traced.pure (Found.concat fs) := by
  induction paths with
  | nil => rfl
  | cons kv paths ih =>
    obtain ⟨path, value⟩ := kv
    obtain ⟨hpath, hpaths⟩ := textPaths_cons.mp h
    rw [entriesOf, List.flatMap_cons, ← entriesOf, Traced.each_append]
    cases value with
    | map item =>
      cases path with
      | str p =>
        simp only [ofPaths, entriesOfPath, ofItem_eq, ih hpaths, Traced.bind_eq, Traced.pure_eq,
          Traced.bind_assoc, Traced.pure_bind, Found.concat_append]
      | _ => cases hpath rfl
    | _ =>
      rw [ofPaths, ih hpaths]
      · simp [entriesOfPath, Traced.each]
      · simp

theorem extracted_of_found {entries : List Entry} {parts : List Found}
    (h : (Traced.each (Entry.found scope) entries).result = .ok parts) :
    ∃ fs, List.Forall₂ (fun e f => (e.extract scope).result = .ok f)
        (entries.filter (·.lists scope.tag)) fs ∧
      Found.concat parts = Found.concat fs := by
  rw [Traced.result_each, mapM_eq_ok] at h
  induction h with
  | nil => exact ⟨[], .nil, rfl⟩
  | @cons e f entries parts hf _ ih =>
    obtain ⟨fs, hfs, hconcat⟩ := ih
    obtain ⟨listed, hlisted, hf⟩ := Traced.result_bind_eq_ok.mp hf
    have hlists := Entry.lists_of_hasTag hlisted
    cases listed with
    | true =>
      rw [List.filter_cons_of_pos hlists]
      exact ⟨f :: fs, .cons hf hfs, by rw [Found.concat_cons, Found.concat_cons, hconcat]⟩
    | false =>
      rw [List.filter_cons_of_neg (by simp [hlists])]
      obtain rfl : Found.empty = f := Except.ok.inj hf
      exact ⟨fs, hfs, by rw [Found.concat_cons, Found.empty_append, hconcat]⟩

theorem log_of_found {entries : List Entry} {parts : List Found}
    (h : (Traced.each (Entry.found scope) entries).result = .ok parts) :
    (Traced.each (Entry.found scope) entries).log =
      (entries.filter (·.lists scope.tag)).flatMap fun e => (e.extract scope).log := by
  rw [Traced.log_each h]
  rw [Traced.result_each, mapM_eq_ok] at h
  induction h with
  | nil => rfl
  | @cons e f entries parts hf _ ih =>
    obtain ⟨listed, hlisted, -⟩ := Traced.result_bind_eq_ok.mp hf
    have hlists := Entry.lists_of_hasTag hlisted
    have hlog : (e.found scope).log = if listed then (e.extract scope).log else [] := by
      rw [Entry.found, Traced.bind_eq, Traced.log_bind hlisted]
      cases listed <;> rfl
    rw [List.flatMap_cons, ih, hlog]
    cases listed with
    | true => rw [List.filter_cons_of_pos hlists, List.flatMap_cons, if_pos rfl]
    | false => rw [List.filter_cons_of_neg (by simp [hlists])]; rfl

def assembled (scope : Scope) (path : String) (method : Method) (operation : Value.Entries)
    (result : Option TypeNode) (typed : List Parameter × List String) : Traced Found := do
  let declared := Value.fieldD "operationId" operation
  let name := if declared.truthy then declared else .str (Path.operationName method path)
  let description := Value.fieldD "description" operation
  Traced.lift (Shape.accept
    (Shape.textAt "name" name ++ Shape.optionalTextAt "description" description))
  return ⟨[⟨Shape.textD name, method, Path.interpolate path, Shape.text? description,
      (result.map TypeNode.text).getD "", typed.1⟩],
    ((result.map (TypeNode.externalTypes scope.table)).getD []) ++ typed.2⟩

theorem extract_eq {e : Entry} {path : String} (hpath : e.path = .str path) :
    e.extract scope =
      (returnType scope (e.method.title ++ " " ++ path) e.fields).bind fun result =>
        (e.parameters scope).bind fun merged =>
          (Parameters.extractAll scope.table scope.registry (e.method.title ++ " " ++ path)
            merged).bind (assembled scope path e.method e.fields result) := by
  simp only [Entry.extract, hpath, extract, Entry.parameters, Traced.bind_eq, Traced.bind_assoc]
  rfl

/-- What is read in the extraction of an entry, and the operation that is made of it. -/
structure Entry.Extraction (scope : Scope) (e : Entry) where
  path : String
  result : Option TypeNode
  parameters : List Value.Entries
  imports : List String
  operation : Operation
  path_eq : e.path = .str path
  result_eq : (returnType scope (e.method.title ++ " " ++ path) e.fields).result = .ok result
  parameters_eq : (e.parameters scope).result = .ok parameters
  imports_eq : (Parameters.extractAll scope.table scope.registry (e.method.title ++ " " ++ path)
    parameters).result = .ok (operation.parameters, imports)
  method : operation.method = e.method
  operation_path : operation.path = Path.interpolate path
  returnType : operation.returnType = (result.map TypeNode.text).getD ""

/-- The one operation, and the imports of its result before those of its parameters. -/
def Entry.Extraction.found {e : Entry} (x : e.Extraction scope) : Found :=
  ⟨[x.operation], ((x.result.map (TypeNode.externalTypes scope.table)).getD []) ++ x.imports⟩

theorem extraction_of_extract {e : Entry} {found : Found}
    (h : (e.extract scope).result = .ok found) : ∃ x : e.Extraction scope, found = x.found := by
  unfold Entry.extract at h
  cases hpath : e.path with
  | str p =>
    simp only [hpath, extract, Traced.bind_eq, Traced.result_bind_eq_ok] at h
    obtain ⟨result, hresult, inherited, hinherited, own, hown, merged, hmerged,
      ⟨parameters, imports⟩, hparameters, -, -, h⟩ := h
    have hmergedParameters : (e.parameters scope).result = .ok merged := by
      unfold Entry.parameters
      simp only [Traced.bind_eq, Traced.result_bind_eq_ok]
      exact ⟨inherited, hinherited, own, hown, hmerged⟩
    exact ⟨⟨p, result, merged, imports, _, hpath, hresult, hmergedParameters, hparameters, rfl, rfl,
      rfl⟩, (Except.ok.inj h).symm⟩
  | _ => simp [hpath, Traced.fail] at h

end Scope

def scopeOf (table : TypeTable) (registry : List String) (document tag : Value) : Scope :=
  match document with
  | .map fields => ⟨table, registry, Shape.orEmptyMap (Value.fieldD "parameters" fields), tag⟩
  | _ => ⟨table, registry, .map [], tag⟩

@[simp] theorem scopeOf_table (table : TypeTable) (registry : List String) (document tag : Value) :
    (scopeOf table registry document tag).table = table := by
  cases document <;> rfl

@[simp] theorem scopeOf_tag (table : TypeTable) (registry : List String) (document tag : Value) :
    (scopeOf table registry document tag).tag = tag := by
  cases document <;> rfl

theorem ofDocument_eq {table : TypeTable} {registry : List String} {fields : Value.Entries}
    {tag : Value} {paths : Value.Entries}
    (h : Shape.entries (Shape.orEmptyMap (Value.fieldD "paths" fields)) = .ok paths) :
    ofDocument table registry (.map fields) tag =
      ofPaths (scopeOf table registry (.map fields) tag) paths := by
  simp only [ofDocument, Shape.entries, Traced.bind_eq, Traced.lift_ok_bind] at h ⊢
  rw [h]
  rfl

/-- A run that returns goes over the entries of the document once. -/
theorem ofDocument_eq_each {table : TypeTable} {registry : List String} {document tag : Value}
    {found : Found} (h : (ofDocument table registry document tag).result = .ok found) :
    ofDocument table registry document tag =
      (Traced.each (Entry.found (scopeOf table registry document tag))
        (entriesOfDocument document)).bind fun fs => Traced.pure (Found.concat fs) := by
  have hreturns := h
  simp only [ofDocument, Traced.bind_eq, Traced.result_bind_eq_ok, Traced.result_lift] at hreturns
  obtain ⟨fields, hfields, paths, hpaths, -⟩ := hreturns
  cases document with
  | map kvs =>
    obtain rfl : kvs = fields := Except.ok.inj hfields
    rw [ofDocument_eq hpaths] at h ⊢
    rw [ofPaths_eq (textPaths_of_ofPaths h), entriesOfDocument_map hpaths]
  | _ => cases hfields

theorem log_of_document {table : TypeTable} {registry : List String} {document tag : Value}
    {found : Found} (h : (ofDocument table registry document tag).result = .ok found) :
    (ofDocument table registry document tag).log =
      ((entriesOfDocument document).filter (·.lists tag)).flatMap fun e =>
        (e.extract (scopeOf table registry document tag)).log := by
  have heach := ofDocument_eq_each h
  rw [heach] at h ⊢
  obtain ⟨parts, hparts, -⟩ := Traced.result_bind_eq_ok.mp h
  rw [Traced.log_bind hparts, log_of_found hparts, scopeOf_tag]
  exact List.append_nil _

/-- The operations of a tag are those of the entries that list it, in the order of the document. -/
theorem ofDocument_eq_ok {table : TypeTable} {registry : List String} {document tag : Value}
    {found : Found} (h : (ofDocument table registry document tag).result = .ok found) :
    ∃ fs, List.Forall₂ (fun e f => (e.extract (scopeOf table registry document tag)).result = .ok f)
        ((entriesOfDocument document).filter (·.lists tag)) fs ∧
      found = Found.concat fs := by
  rw [ofDocument_eq_each h] at h
  obtain ⟨parts, hparts, h⟩ := Traced.result_bind_eq_ok.mp h
  obtain rfl := Except.ok.inj h
  have hextracted := extracted_of_found hparts
  rw [scopeOf_tag] at hextracted
  exact hextracted

end Operations

namespace Modules

variable {table : TypeTable} {registry : List String}

theorem ofTag_eq_ok {fields : Value.Entries} {tag : Value × Value} {m : ApiModule}
    (h : (ofTag table registry fields tag).result = .ok m) :
    ∃ fs, List.Forall₂
        (fun e f => (e.extract (Operations.scopeOf table registry (.map fields) tag.1)).result = .ok f)
        ((Operations.entriesOfDocument (.map fields)).filter (·.lists tag.1)) fs ∧
      Shape.text? tag.1 = some m.name ∧
      (tag.2 = .null ∨ ∃ s, Shape.text? tag.2 = some s) ∧ m.description = Shape.text? tag.2 ∧
      m.operations = (Operations.Found.concat fs).operations ∧
      m.imports = dedupe (Operations.Found.concat fs).imports := by
  simp only [ofTag, Traced.bind_eq, Traced.result_bind_eq_ok] at h
  obtain ⟨found, hfound, ⟨⟩, haccept, h⟩ := h
  obtain rfl := Except.ok.inj h
  obtain ⟨fs, hfs, rfl⟩ := Operations.ofDocument_eq_ok hfound
  obtain ⟨hname, hdescription⟩ := List.append_eq_nil_iff.mp (Shape.accept_eq_ok haccept)
  obtain ⟨name, hname⟩ := Shape.text?_of_textAt hname
  refine ⟨fs, hfs, ?_, Shape.text?_of_optionalTextAt hdescription, rfl, rfl, rfl⟩
  rw [Shape.textD, hname, Option.getD_some]

theorem ofDocument_eq_ok {document : Value} {modules : List ApiModule}
    (h : (ofDocument table registry document).result = .ok modules) :
    ∃ fields found, document = .map fields ∧ tags fields = .ok found ∧
      List.Forall₂ (fun tag m => (ofTag table registry fields tag).result = .ok m) found modules := by
  simp only [ofDocument, Traced.bind_eq, Traced.result_bind_eq_ok, Traced.result_lift,
    Traced.result_each, mapM_eq_ok] at h
  obtain ⟨fields, hfields, found, hfound, h⟩ := h
  refine ⟨fields, found, ?_, hfound, h⟩
  cases document with
  | map kvs => rw [Except.ok.inj hfields]
  | _ => cases hfields

end Modules
end ClientCompiler
