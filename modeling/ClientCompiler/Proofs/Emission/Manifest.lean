import ClientCompiler.Proofs.Emission.Reload

/-!
A client is read back from its manifest, from the text of the manifest, and from the file that an
emission leaves: the same models and modules. Each record is read back from its own object, with its
null fields or without them.
-/

namespace ClientCompiler

namespace Checked

theorem itemsFrom_map {α : Type} {f : α → Value} {check : Value → Checked α}
    (h : ∀ a, check (f a) = .ok a) (as : List α) (i : Nat) :
    itemsFrom check i (as.map f) = .ok as := by
  induction as generalizing i with
  | nil => rfl
  | cons a as ih =>
    rw [List.map_cons, itemsFrom, h a, ih]
    rfl

end Checked

namespace Validation

open Checked

section Fields

variable {α : Type} {name : String} {check : Value → Checked α} {kvs : Value.Entries} {v : Value}
  {a : α}

theorem listOf_map {f : α → Value} (h : ∀ a, check (f a) = .ok a) (as : List α) :
    listOf check (.list (as.map f)) = .ok as := itemsFrom_map h as 0

variable (name) in
theorem required_of_field (hfield : Value.field name kvs = some v) (hcheck : check v = .ok a) :
    required name check kvs = .ok a := by
  simp only [required, hfield, hcheck, within]

theorem withDefault_of_field {b : α} (hfield : Value.field name kvs = some v)
    (hcheck : check v = .ok a) : withDefault name b check kvs = .ok a := by
  simp only [withDefault, hfield, hcheck, within]

theorem text_str (s : String) : text (.str s) = .ok s := rfl

theorem location_name (l : Location) : member Location.ofName? (.str l.name) = .ok l := by
  rw [member, Location.ofName?_name]

theorem method_name (m : Method) : member Method.ofName? (.str m.name) = .ok m := by
  rw [member, Method.ofName?_name]

end Fields

/-! ## The records -/

theorem property_ofProperty (keepNull : Bool) (p : Property) :
    property (Manifest.ofProperty keepNull p) = .ok p := by
  obtain ⟨name, type, required, description⟩ := p
  cases description <;> cases keepNull <;> rfl

theorem model_ofModel (keepNull : Bool) (m : Model) :
    model (Manifest.ofModel keepNull m) = .ok m := by
  have hgenerics := listOf_map text_str m.generics
  have hproperties := listOf_map (property_ofProperty keepNull) m.properties
  obtain ⟨name, title, generics, properties⟩ := m
  cases title <;> cases keepNull <;>
  · simp only [Manifest.ofModel, model, record, Except.bind]
    rw [withDefault_of_field rfl hgenerics, withDefault_of_field rfl hproperties]
    rfl

theorem parameter_ofParameter (p : Parameter) :
    parameter (Manifest.ofParameter p) = .ok p := by
  have hlocation := location_name p.location
  obtain ⟨name, location, type, req⟩ := p
  simp only [Manifest.ofParameter, parameter, record, Except.bind]
  rw [required_of_field (writtenName "in" "location" _) rfl hlocation]
  rfl

theorem operation_ofOperation (keepNull : Bool) (o : Operation) :
    operation (Manifest.ofOperation keepNull o) = .ok o := by
  have hmethod := method_name o.method
  have hparameters := listOf_map parameter_ofParameter o.parameters
  obtain ⟨name, method, path, description, returnType, parameters⟩ := o
  cases description <;> cases keepNull <;>
  · simp only [Manifest.ofOperation, operation, record, Except.bind]
    rw [required_of_field "method" rfl hmethod, withDefault_of_field rfl hparameters]
    rfl

theorem apiModule_ofModule (keepNull : Bool) (m : ApiModule) :
    apiModule (Manifest.ofModule keepNull m) = .ok m := by
  have hoperations := listOf_map (operation_ofOperation keepNull) m.operations
  have himports := listOf_map text_str m.imports
  obtain ⟨name, description, operations, imports⟩ := m
  cases description <;> cases keepNull <;>
  · simp only [Manifest.ofModule, apiModule, record, Except.bind]
    rw [withDefault_of_field rfl hoperations, withDefault_of_field rfl himports]
    rfl

theorem client_manifest (c : Client) : client c.manifest = .ok ⟨c.models, c.modules, []⟩ := by
  have hmodels := listOf_map (model_ofModel false) c.models
  have hmodules := listOf_map (apiModule_ofModule false) c.modules
  simp only [Client.manifest, client, record, Except.bind]
  rw [withDefault_of_field rfl hmodels, withDefault_of_field rfl hmodules]
  rfl

end Validation

/-- The client without its source document. -/
def Client.bare (c : Client) : Client := ⟨c.models, c.modules, []⟩

def Manifest.read? (s : List Char) : Option Client :=
  (Json.parse s).toOption.bind fun v => (Validation.client v).toOption

theorem Client.bare_eq_bare {c c' : Client} :
    c.bare = c'.bare ↔ c.models = c'.models ∧ c.modules = c'.modules := by
  rw [bare, bare, Client.mk.injEq]
  exact ⟨fun h => ⟨h.1, h.2.1⟩, fun h => ⟨h.1, h.2, rfl⟩⟩

theorem Client.manifest_eq_manifest {c c' : Client} :
    c.manifest = c'.manifest ↔ c.models = c'.models ∧ c.modules = c'.modules := by
  constructor
  · intro h
    have hread := Validation.client_manifest c
    rw [h, Validation.client_manifest c'] at hread
    exact bare_eq_bare.mp (Except.ok.inj hread).symm
  · rintro ⟨hmodels, hmodules⟩
    rw [manifest, manifest, hmodels, hmodules]

theorem Manifest.read?_of_parse {s : List Char} {c : Client} (h : Json.parse s = .ok c.manifest) :
    read? s = some c.bare := by
  rw [read?, h]
  change (Validation.client c.manifest).toOption = _
  rw [Validation.client_manifest]
  rfl

/-- The text `s` is the manifest of `c` as it is written, with or without a line end. -/
structure Manifest.TextOf (c : Client) (s : List Char) : Prop where
  written : Formatter.jsonText c.manifest = .ok s
  settled : Formatter.json s = ⟨.ok (s ++ ['\n']), []⟩
  parsed : ∀ tail ∈ [[], ['\n']], Json.parse (s ++ tail) = .ok c.manifest
  read : ∀ tail ∈ [[], ['\n']], Manifest.read? (s ++ tail) = some c.bare
  lines : '\r' ∉ s

theorem Manifest.exists_textOf (c : Client) : ∃ s, TextOf c s := by
  obtain ⟨s, hs, hwritten⟩ := Formatter.jsonText_of_plain c.isPlain_manifest
  have hparsed : ∀ tail ∈ [[], ['\n']], Json.parse (s ++ tail) = .ok c.manifest :=
    fun tail htail => hwritten.parse (List.mem_pair.mp htail)
  exact ⟨s, hs, Formatter.json_jsonText c.isPlain_manifest hs, hparsed,
    fun tail htail => read?_of_parse (hparsed tail htail), hwritten.lines⟩

open Emission FileAction

namespace Emission

variable {r : Renderer} {f : Formatters} {texts : Slots String} {c : Client} {k : Contents}
  {out : FilePath} {base : List String} {t t' : FileTree}

/-- The manifest is written last but one, and the last file has another name. -/
theorem Contents.lookup_manifest (k : Contents) :
    k.nodes.reverse.lookup ["manifest.json"] = some (.file (Text.encode k.manifest)) := by
  rw [Contents.nodes, List.reverse_append, List.reverse_append, List.reverse_singleton,
    List.reverse_singleton, List.singleton_append, List.singleton_append, List.lookup_cons,
    List.lookup_cons_self]
  rfl

theorem manifest_of_contents (hk : contents r f texts c = .ok k) (hjson : f.json = Formatter.json)
    {s : List Char} (hs : Manifest.TextOf c s) : k.manifest = s ++ ['\n'] := by
  obtain ⟨-, -, -, -, hmanifest, -⟩ := contents_eq_ok.mp hk
  rw [hs.written, hjson] at hmanifest
  change settled Formatter.json s = _ at hmanifest
  rw [settled_json c.isPlain_manifest hs.written] at hmanifest
  exact (Except.ok.inj hmanifest).symm

theorem readText_manifest (hk : contents r f texts c = .ok k) (hjson : f.json = Formatter.json)
    (h : Published out k base t t') {s : List Char} (hs : Manifest.TextOf c s) :
    t'.readText (manifestPath out) = .ok (s ++ ['\n']) := by
  have hread := (h.read k.lookup_manifest).1
  rw [manifest_of_contents hk hjson hs] at hread
  exact Disk.readText_of_encoded (by simp [hs.lines]) hread

theorem emit_of_code {code : Formatter} {types : List Char} {modules : List (String × List Char)}
    (htypes : Render.typesText r.chance c.models >>= settled code = .ok types)
    (hmodules : r.modules texts >>= (fun render =>
      c.modules.mapM (moduleContent ⟨code, Formatter.json⟩ render)) = .ok modules)
    (hplain : (Value.map c.source).isPlain = true) (hfits : ∀ m ∈ modules, Draft.Fits m.1)
    (hfree : t.Free out) :
    ∃ t', outcome (emit r ⟨code, Formatter.json⟩ texts out c) t = (.ok (paths out c), t') := by
  obtain ⟨render, hrender, hmodules⟩ := bind_eq_ok.mp hmodules
  obtain ⟨manifest, hmanifest⟩ := Manifest.exists_textOf c
  obtain ⟨docs, hdocs, -⟩ := Formatter.jsonText_of_plain hplain
  have hk : contents r ⟨code, Formatter.json⟩ texts c =
      .ok ⟨types, modules, manifest ++ ['\n'], docs ++ ['\n']⟩ := contents_eq_ok.mpr
    ⟨render, hrender, htypes, hmodules,
      bind_eq_ok.mpr ⟨manifest, hmanifest.written,
        settled_json c.isPlain_manifest hmanifest.written⟩,
      bind_eq_ok.mpr ⟨docs, hdocs, settled_json hplain hdocs⟩⟩
  exact emit_of_free hk hfits hfree

end Emission

/-- The manifest loses nothing. It is read back as the client without its document, so that clients
with one manifest have the same models and modules. It is always written, the formatter keeps it,
and its text is read back as the manifest; so is the file that an emission leaves. -/
theorem manifest_lossless (c : Client) :
    Validation.client c.manifest = .ok c.bare ∧
      (∀ c' : Client, c.manifest = c'.manifest ↔ c.models = c'.models ∧ c.modules = c'.modules) ∧
      (∃ s, Manifest.TextOf c s ∧ ∀ c' : Client, Formatter.jsonText c'.manifest = .ok s ↔
        c.models = c'.models ∧ c.modules = c'.modules) ∧
      ∀ (r : Renderer) (code : Formatter) (texts : Slots String) (out : FilePath)
        (ps : List FilePath) (t t' : FileTree),
        outcome (emit r ⟨code, Formatter.json⟩ texts out c) t = (.ok ps, t') →
        ∃ s, t'.readText (manifestPath out) = .ok s ∧ Json.parse s = .ok c.manifest ∧
          Manifest.read? s = some c.bare := by
  obtain ⟨s, hs⟩ := Manifest.exists_textOf c
  refine ⟨Validation.client_manifest c, fun _ => Client.manifest_eq_manifest, ⟨s, hs, ?_⟩, ?_⟩
  · intro c'
    rw [← Client.manifest_eq_manifest]
    constructor
    · intro hs'
      obtain ⟨s', htext⟩ := Manifest.exists_textOf c'
      obtain rfl : s' = s := Except.ok.inj (htext.written.symm.trans hs')
      have hparsed := htext.parsed [] (by simp)
      rw [hs.parsed [] (by simp)] at hparsed
      exact Except.ok.inj hparsed
    · intro hmanifest
      rw [← hmanifest]
      exact hs.written
  · intro r code texts out ps t t' hemit
    obtain ⟨-, k, base, t₀, hk, hpublished⟩ := published_of_emit hemit
    exact ⟨s ++ ['\n'], readText_manifest hk rfl hpublished hs, hs.parsed _ (by simp),
      hs.read _ (by simp)⟩

theorem manifest_lossless_pets :
    let parameter : Parameter := ⟨"status", .formData, "string", true⟩
    let operation : Operation := ⟨"findPets", .get, "/pets", none, "Array<Types.Pet>", [parameter]⟩
    let c : Client := ⟨[⟨"Pet", none, [], []⟩], [⟨"pets", some "", [operation], ["Pet"]⟩], []⟩
    let r := Render.renderer (.constant 0)
    let run := outcome (emit r ⟨Prettier.absent.formatter, Formatter.json⟩ ⟨"", "", "", ""⟩
      (.ofString "api") c) (FileTree.empty ["work"])
    run.1 = .ok (paths (.ofString "api") c) ∧
      ∃ s, run.2.readText (manifestPath (.ofString "api")) = .ok s ∧
        Json.parse s = .ok c.manifest ∧ Manifest.read? s = some c.bare := by
  intro parameter operation c r run
  have hmodules : r.modules ⟨"", "", "", ""⟩ >>= (fun render => c.modules.mapM
      (moduleContent ⟨Prettier.absent.formatter, Formatter.json⟩ render)) =
        .ok [("pets.ts", [])] := by
    decide +kernel
  have hfits : Draft.Fits "pets.ts" := ⟨by decide, by decide, by decide⟩
  have htypes : Render.typesText r.chance c.models >>= settled Prettier.absent.formatter = .ok _ :=
    bind_eq_ok.mpr ⟨_, typesText_pet _, rfl⟩
  obtain ⟨t', hemit⟩ := emit_of_code htypes hmodules rfl (by simpa using hfits) free_api
  have hrun : run = (.ok (paths (.ofString "api") c), t') := hemit
  rw [hrun]
  exact ⟨rfl, (manifest_lossless c).2.2.2 _ _ _ _ _ _ _ hemit⟩

end ClientCompiler
