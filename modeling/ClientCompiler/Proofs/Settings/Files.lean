import ClientCompiler.Proofs.Files.Disk
import ClientCompiler.Settings.Resolution

/-!
What a settings file holds. A file of TOML holds its own table below `tool`, any other file an
object of JSON; the fields of either state the settings, and a field that is not there leaves its
default. Loading a file gives the settings that it holds, or says that it holds none.
-/

namespace ClientCompiler

namespace Checked

variable {α β : Type}

theorem also_eq_ok {f : Checked (α → β)} {x : Checked α} {b : β} :
    also f x = .ok b ↔ ∃ g a, f = .ok g ∧ x = .ok a ∧ g a = b := by
  cases f <;> cases x <;> simp [also]

theorem within_eq_ok {p : Place} {x : Checked α} {a : α} : within p x = .ok a ↔ x = .ok a := by
  cases x <;> simp [within]

end Checked

instance decidableEqError {ε α : Type} [DecidableEq ε] (x : Except ε α) (e : ε) :
    Decidable (x = .error e) :=
  match x with
  | .error e' => decidable_of_iff (e' = e) (by simp)
  | .ok _ => isFalse (by simp)

/-- A field states something, or it is not there and leaves the default. -/
inductive Validation.States {α : Type} (name : String) (byDefault : α) (check : Value → Checked α)
    (kvs : Value.Entries) : α → Prop where
  | stated {v : Value} {a : α} (hfield : Value.field name kvs = some v) (h : check v = .ok a) :
      States name byDefault check kvs a
  | absent (hfield : Value.field name kvs = none) : States name byDefault check kvs byDefault

theorem Validation.withDefault_eq_ok {α : Type} {name : String} {d a : α}
    {check : Value → Checked α} {kvs : Value.Entries} :
    withDefault name d check kvs = .ok a ↔ States name d check kvs a := by
  unfold withDefault
  constructor
  · intro h
    split at h
    · next v hfield => exact .stated hfield (Checked.within_eq_ok.mp h)
    · next hfield =>
      obtain rfl := Except.ok.inj h
      exact .absent hfield
  · intro h
    cases h with
    | stated hfield h =>
      rw [hfield]
      exact Checked.within_eq_ok.mpr h
    | absent hfield => rw [hfield]

namespace Settings

open Validation

/-! ## Fields -/

structure StatesTemplates (kvs : Value.Entries) (slots : Slots (Option String)) : Prop where
  header : States "header" none optionalText kvs slots.header
  body : States "body" none optionalText kvs slots.body
  footer : States "footer" none optionalText kvs slots.footer
  wrapper : States "wrapper" none optionalText kvs slots.wrapper

/-- The settings that the fields of a record state. The templates stand under one of two names. -/
structure StatesSettings (kvs : Value.Entries) (s : Settings) : Prop where
  url : States "url" none optionalText kvs s.url
  dir : States "dir" ".specgen" text kvs s.dir
  templates :
    (Value.field "moduleTemplate" kvs = none ∧ Value.field "module_template" kvs = none ∧
      s.templates = noTemplates) ∨
    ∃ slots, (Value.field "moduleTemplate" kvs).or (Value.field "module_template" kvs) =
      some (.map slots) ∧ StatesTemplates slots s.templates

variable {kvs : Value.Entries} {slots : Slots (Option String)} {s : Settings}

theorem templates_eq_ok {v : Value} :
    Validation.templates v = .ok slots ↔ ∃ kvs, v = .map kvs ∧ StatesTemplates kvs slots := by
  constructor
  · intro h
    cases v with
    | map kvs =>
      simp only [Validation.templates, record, Except.bind, Checked.also_eq_ok,
        withDefault_eq_ok] at h
      obtain ⟨_, w, ⟨_, f, ⟨_, b, ⟨_, a, hmk, ha, rfl⟩, hb, rfl⟩, hf, rfl⟩, hw, rfl⟩ := h
      obtain rfl := Except.ok.inj hmk
      exact ⟨kvs, rfl, ha, hb, hf, hw⟩
    | _ => cases h
  · rintro ⟨kvs, rfl, h⟩
    simp only [Validation.templates, record, Except.bind, Checked.also_eq_ok, withDefault_eq_ok]
    exact ⟨_, _, ⟨_, _, ⟨_, _, ⟨_, _, rfl, h.header, rfl⟩, h.body, rfl⟩, h.footer, rfl⟩,
      h.wrapper, rfl⟩

theorem field_writtenName (name other : String) (kvs : Value.Entries) :
    Value.field (writtenName name other kvs) kvs =
      (Value.field name kvs).or (Value.field other kvs) := by
  unfold writtenName
  cases hname : Value.field name kvs with
  | some v => simp [hname]
  | none =>
    cases hother : Value.field other kvs with
    | some w => simp [hother]
    | none => simp [hname]

theorem states_templates_iff :
    States (writtenName "moduleTemplate" "module_template" kvs) noTemplates
        Validation.templates kvs slots ↔
      (Value.field "moduleTemplate" kvs = none ∧ Value.field "module_template" kvs = none ∧
        slots = noTemplates) ∨
      ∃ tkvs, (Value.field "moduleTemplate" kvs).or (Value.field "module_template" kvs) =
        some (.map tkvs) ∧ StatesTemplates tkvs slots := by
  have hfield := field_writtenName "moduleTemplate" "module_template" kvs
  constructor
  · intro h
    cases h with
    | stated hstated h =>
      obtain ⟨tkvs, rfl, htemplates⟩ := templates_eq_ok.mp h
      exact Or.inr ⟨tkvs, hfield.symm.trans hstated, htemplates⟩
    | absent habsent =>
      rw [hfield, Option.or_eq_none_iff] at habsent
      exact Or.inl ⟨habsent.1, habsent.2, rfl⟩
  · rintro (⟨hname, hother, rfl⟩ | ⟨tkvs, hstated, htemplates⟩)
    · exact .absent (by rw [hfield, hname, hother, Option.none_or])
    · exact .stated (hfield.trans hstated) (templates_eq_ok.mpr ⟨tkvs, rfl, htemplates⟩)

theorem settings_eq_ok : Validation.settings (.map kvs) = .ok s ↔ StatesSettings kvs s := by
  simp only [Validation.settings, record, Except.bind, Checked.also_eq_ok, withDefault_eq_ok]
  constructor
  · rintro ⟨_, w, ⟨_, d, ⟨_, u, hmk, hu, rfl⟩, hd, rfl⟩, hw, rfl⟩
    obtain rfl := Except.ok.inj hmk
    exact ⟨hu, hd, states_templates_iff.mp hw⟩
  · intro h
    exact ⟨_, _, ⟨_, _, ⟨_, _, rfl, h.url, rfl⟩, h.dir, rfl⟩, states_templates_iff.mpr h.templates,
      rfl⟩

/-! ## Files -/

variable {d : Disk} {p : FilePath} {table found : Value.Entries}

def ownTable? (table : Value.Entries) : Option Value.Entries :=
  match Value.field "tool" table with
  | some (.map tools) =>
    match Value.field "specgen" tools with
    | some (.map found) => some found
    | _ => none
  | _ => none

def ReadsToml (d : Disk) (p : FilePath) (outcome : Except Toml.Failure Value.Entries) : Prop :=
  ∃ octets text, d.read p = .ok octets ∧ Text.decode? octets = some text ∧ Toml.parse text = outcome

def ReadsJson (d : Disk) (p : FilePath) (outcome : Except Json.Failure Value) : Prop :=
  ∃ text, d.readText p = .ok text ∧ Json.parse text = outcome

def Unread (d : Disk) (p : FilePath) : Prop := ∃ f, d.read p = .error (.system f)

/-- A settings file that is there and holds settings. -/
inductive Holds (d : Disk) (p : FilePath) (s : Settings) : Prop where
  | toml (hfile : d.isFile p = .ok true) (hsuffix : p.suffix = ".toml")
      {table found : Value.Entries} (htable : ReadsToml d p (.ok table))
      (hfound : ownTable? table = some found) (h : StatesSettings found s)
  | json (hfile : d.isFile p = .ok true) (hsuffix : p.suffix ≠ ".toml") {kvs : Value.Entries}
      (hobject : ReadsJson d p (.ok (.map kvs))) (h : StatesSettings kvs s)

/-- A file whose octets are a text without an integer of too many digits, and where a table stands
under `tool` if it is TOML. -/
def Regular (d : Disk) (p : FilePath) : Prop :=
  ∀ octets ∈ (d.read p).toOption, ∃ text ∈ Text.decode? octets,
    if p.suffix = ".toml" then
      Toml.parse text ≠ .error .integerTooLong ∧
        ∀ table ∈ (Toml.parse text).toOption, ∀ v ∈ Value.field "tool" table, v.isMap = true
    else Json.parse (Text.normalizeNewlines text) ≠ .error .integerTooLong
  deriving Decidable

theorem toolTable_of_unread (h : Unread d p) :
    toolTable d p = .error (.config (.malformedTable p.text)) := by
  obtain ⟨f, hread⟩ := h
  unfold toolTable
  simp only [hread, Bind.bind, Except.bind]
  rfl

theorem toolTable_of_malformed (h : ReadsToml d p (.error .malformed)) :
    toolTable d p = .error (.config (.malformedTable p.text)) := by
  obtain ⟨octets, text, hread, hdecode, hparse⟩ := h
  unfold toolTable
  simp only [hread, hdecode, hparse, Bind.bind, Except.bind]
  rfl

theorem toolTable_of_table (h : ReadsToml d p (.ok table))
    (htools : ∀ v, Value.field "tool" table = some v → v.isMap = true) :
    toolTable d p = .ok ((ownTable? table).map .map) := by
  obtain ⟨octets, text, hread, hdecode, hparse⟩ := h
  unfold toolTable ownTable?
  simp only [hread, hdecode, hparse, Bind.bind, Except.bind]
  cases htool : Value.field "tool" table with
  | none => rfl
  | some v =>
    have hmap := htools v htool
    cases v with
    | map tools =>
      simp only [Option.getD_some]
      cases Value.field "specgen" tools with
      | none => rfl
      | some w =>
        cases w with
        | map found => rfl
        | _ => rfl
    | _ => cases hmap

theorem isMap_of_ownTable (h : ownTable? table = some found) :
    ∀ v, Value.field "tool" table = some v → v.isMap = true := by
  intro v hv
  unfold ownTable? at h
  rw [hv] at h
  cases v with
  | map tools => rfl
  | _ => cases h

theorem readJson_of_unread (h : Unread d p) :
    ∃ reason, readJson d p = .error (.config (.malformed p.text reason)) := by
  obtain ⟨f, hread⟩ := h
  unfold readJson
  simp only [Disk.readText_of_error hread, Bind.bind, Except.bind]
  exact ⟨_, rfl⟩

theorem readJson_of_value {v : Value} (h : ReadsJson d p (.ok v)) : readJson d p = .ok v := by
  obtain ⟨text, htext, hparse⟩ := h
  unfold readJson
  simp only [htext, hparse, Bind.bind, Except.bind]
  rfl

theorem readJson_of_malformed {cause : Json.Cause} {left : Nat}
    (h : ReadsJson d p (.error (.malformed cause left))) :
    ∃ reason, readJson d p = .error (.config (.malformed p.text reason)) := by
  obtain ⟨text, htext, hparse⟩ := h
  unfold readJson
  simp only [htext, hparse, Bind.bind, Except.bind]
  exact ⟨_, rfl⟩

/-! ## Loading -/

theorem load_of_error {e : Fault} (h : d.isFile p = .error e) : load d p = .error e := by
  unfold load
  simp only [h, Bind.bind, Except.bind]

theorem load_of_missing (h : d.isFile p = .ok false) :
    load d p = .error (.config (.notFound p.text)) := by
  unfold load
  simp only [h, Bind.bind, Except.bind]
  rfl

def ofValue (p : FilePath) (v : Value) : Except Fault Settings :=
  if !v.isMap then fault (.notObject p.text)
  else match Validation.settings v with
    | .ok s => .ok s
    | .error issues => fault (.badFields p.text issues)

theorem ofValue_of_states {kvs : Value.Entries} (h : StatesSettings kvs s) :
    ofValue p (.map kvs) = .ok s := by
  unfold ofValue
  rw [settings_eq_ok.mpr h]
  rfl

theorem ofValue_ends (p : FilePath) (v : Value) :
    (∃ kvs s, v = .map kvs ∧ StatesSettings kvs s) ∨
      ∃ cause, ofValue p v = .error (.config cause) := by
  cases v with
  | map kvs =>
    cases h : Validation.settings (.map kvs) with
    | ok s => exact Or.inl ⟨kvs, s, rfl, settings_eq_ok.mp h⟩
    | error issues =>
      refine Or.inr ⟨.badFields p.text issues, ?_⟩
      unfold ofValue
      rw [h]
      rfl
  | _ => exact Or.inr ⟨.notObject p.text, rfl⟩

theorem load_of_table (hfile : d.isFile p = .ok true) (hsuffix : p.suffix = ".toml") {v : Value}
    (h : toolTable d p = .ok (some v)) : load d p = ofValue p v := by
  unfold load ofValue
  simp only [hfile, hsuffix, h, Bind.bind, Except.bind]
  rfl

theorem load_of_no_table (hfile : d.isFile p = .ok true) (hsuffix : p.suffix = ".toml")
    (h : toolTable d p = .ok none) : load d p = .error (.config (.noTable p.text)) := by
  unfold load
  simp only [hfile, hsuffix, h, Bind.bind, Except.bind]
  rfl

theorem load_of_bad_table (hfile : d.isFile p = .ok true) (hsuffix : p.suffix = ".toml") {e : Fault}
    (h : toolTable d p = .error e) : load d p = .error e := by
  unfold load
  simp only [hfile, hsuffix, h, Bind.bind, Except.bind]
  rfl

theorem load_of_json (hfile : d.isFile p = .ok true) (hsuffix : p.suffix ≠ ".toml") :
    load d p = (readJson d p).bind (ofValue p) := by
  unfold load
  simp only [hfile, hsuffix, Bind.bind, Except.bind]
  rfl

theorem load_of_holds (h : Holds d p s) : load d p = .ok s := by
  cases h with
  | toml hfile hsuffix htable hfound h =>
    have htool := toolTable_of_table htable (isMap_of_ownTable hfound)
    rw [hfound] at htool
    rw [load_of_table hfile hsuffix htool, ofValue_of_states h]
  | json hfile hsuffix hobject h =>
    rw [load_of_json hfile hsuffix, readJson_of_value hobject]
    exact ofValue_of_states h

theorem Regular.of_unread {e : Fault} (h : d.read p = .error e) : Regular d p := by
  intro octets hoctets
  rw [h] at hoctets
  cases hoctets

theorem Regular.isMap_of_tool (h : Regular d p) (hsuffix : p.suffix = ".toml")
    (htable : ReadsToml d p (.ok table)) :
    ∀ v, Value.field "tool" table = some v → v.isMap = true := by
  obtain ⟨octets, text, hread, hdecode, hparse⟩ := htable
  obtain ⟨text', hdecode', htext⟩ := h octets (toOption_eq_some.mpr hread)
  obtain rfl := Option.some.inj (hdecode.symm.trans hdecode')
  rw [if_pos hsuffix] at htext
  exact htext.2 table (toOption_eq_some.mpr hparse)

theorem read_of_isFile (hfile : d.isFile p = .ok true) :
    Unread d p ∨ ∃ octets, d.read p = .ok octets := by
  rw [Unread, Disk.read_of_plain (Disk.isFile_eq_true.mp hfile).1]
  cases d.octets p with
  | ok octets => exact Or.inr ⟨octets, rfl⟩
  | error f => exact Or.inl ⟨f, rfl⟩

theorem Regular.readsToml (h : Regular d p) (hfile : d.isFile p = .ok true)
    (hsuffix : p.suffix = ".toml") :
    (Unread d p ∨ ReadsToml d p (.error .malformed)) ∨ ∃ table, ReadsToml d p (.ok table) := by
  rcases read_of_isFile hfile with hunread | ⟨octets, hread⟩
  · exact Or.inl (Or.inl hunread)
  obtain ⟨text, hdecode, htext⟩ := h octets (toOption_eq_some.mpr hread)
  rw [if_pos hsuffix] at htext
  cases hparse : Toml.parse text with
  | ok table => exact Or.inr ⟨table, octets, text, hread, hdecode, hparse⟩
  | error failure =>
    cases failure with
    | malformed => exact Or.inl (Or.inr ⟨octets, text, hread, hdecode, hparse⟩)
    | integerTooLong => exact absurd hparse htext.1

theorem Regular.readsJson (h : Regular d p) (hfile : d.isFile p = .ok true)
    (hsuffix : p.suffix ≠ ".toml") :
    (Unread d p ∨ ∃ cause left, ReadsJson d p (.error (.malformed cause left))) ∨
      ∃ v, ReadsJson d p (.ok v) := by
  rcases read_of_isFile hfile with hunread | ⟨octets, hread⟩
  · exact Or.inl (Or.inl hunread)
  obtain ⟨text, hdecode, htext⟩ := h octets (toOption_eq_some.mpr hread)
  rw [if_neg hsuffix] at htext
  have hreadText := Disk.readText_of_decoded hread hdecode
  cases hparse : Json.parse (Text.normalizeNewlines text) with
  | ok v => exact Or.inr ⟨v, _, hreadText, hparse⟩
  | error failure =>
    cases failure with
    | malformed cause left => exact Or.inl (Or.inr ⟨cause, left, _, hreadText, hparse⟩)
    | integerTooLong => exact absurd hparse htext

theorem Regular.load_ends (h : Regular d p) {found : Bool} (hfile : d.isFile p = .ok found) :
    (∃ s, Holds d p s) ∨ ∃ cause, load d p = .error (.config cause) := by
  cases found with
  | false => exact Or.inr ⟨_, load_of_missing hfile⟩
  | true =>
    by_cases hsuffix : p.suffix = ".toml"
    · rcases h.readsToml hfile hsuffix with (hunread | hmalformed) | ⟨table, htable⟩
      · exact Or.inr ⟨_, load_of_bad_table hfile hsuffix (toolTable_of_unread hunread)⟩
      · exact Or.inr ⟨_, load_of_bad_table hfile hsuffix (toolTable_of_malformed hmalformed)⟩
      · have htool := toolTable_of_table htable (h.isMap_of_tool hsuffix htable)
        cases hown : ownTable? table with
        | none =>
          rw [hown] at htool
          exact Or.inr ⟨_, load_of_no_table hfile hsuffix htool⟩
        | some found =>
          rw [hown] at htool
          rcases ofValue_ends p (.map found) with ⟨kvs, s, hkvs, hs⟩ | ⟨cause, hcause⟩
          · obtain rfl := Value.map.inj hkvs
            exact Or.inl ⟨s, .toml hfile hsuffix htable hown hs⟩
          · exact Or.inr ⟨cause, (load_of_table hfile hsuffix htool).trans hcause⟩
    · have hrefused {reason : String} (hreason : readJson d p =
          .error (.config (.malformed p.text reason))) :
          ∃ cause, load d p = .error (.config cause) := by
        refine ⟨.malformed p.text reason, ?_⟩
        rw [load_of_json hfile hsuffix, hreason]
        rfl
      rcases h.readsJson hfile hsuffix with (hunread | ⟨cause, left, hmalformed⟩) | ⟨v, hv⟩
      · obtain ⟨reason, hreason⟩ := readJson_of_unread hunread
        exact Or.inr (hrefused hreason)
      · obtain ⟨reason, hreason⟩ := readJson_of_malformed hmalformed
        exact Or.inr (hrefused hreason)
      · rcases ofValue_ends p v with ⟨kvs, s, rfl, hs⟩ | ⟨cause, hcause⟩
        · exact Or.inl ⟨s, .json hfile hsuffix hv hs⟩
        · refine Or.inr ⟨cause, ?_⟩
          rw [load_of_json hfile hsuffix, readJson_of_value hv]
          exact hcause

end Settings

end ClientCompiler
