import ClientCompiler.Proofs.Settings.Precedence
import ClientCompiler.Render.Packaged

/-!
How the settings and the templates of a run fail. Each reader of a file makes a failed
configuration of some faults and lets the others pass. One relation says where such a fault comes
from, and a run is shown to end with it there and with nothing unforeseen elsewhere.
-/

namespace ClientCompiler

inductive Fault.OfSettings : Fault → Prop
  | urlMissing : OfSettings .urlMissing
  | config (cause : ConfigCause) : OfSettings (.config cause)

theorem Fault.OfSettings.class_ne_none {e : Fault} (h : e.OfSettings) : e.class? ≠ none := by
  cases h with
  | urlMissing => nofun
  | config cause => nofun

/-- A computation that returns, or fails and says what is wrong with the settings. -/
def Foreseen {α : Type} (x : Except Fault α) : Prop :=
  (∃ a, x = .ok a) ∨ x = .error .urlMissing ∨ ∃ cause, x = .error (.config cause)

theorem foreseen_of_error {α : Type} {x : Except Fault α} {e : Fault} (hx : x = .error e) :
    Foreseen x ↔ e.OfSettings := by
  subst hx
  constructor
  · rintro (⟨a, hok⟩ | husage | ⟨cause, hcause⟩)
    · cases hok
    · cases husage
      exact .urlMissing
    · cases hcause
      exact .config cause
  · intro h
    cases h with
    | urlMissing => exact Or.inr (Or.inl rfl)
    | config cause => exact Or.inr (Or.inr ⟨cause, rfl⟩)

theorem not_foreseen {α : Type} {x : Except Fault α} {e : Fault} (hx : x = .error e)
    (h : e.class? = none) : ¬ Foreseen x :=
  fun hforeseen => ((foreseen_of_error hx).mp hforeseen).class_ne_none h

/-! ## Slots in order -/

def Slot.before : Slot → List Slot
  | .header => []
  | .body => [.header]
  | .footer => [.header, .body]
  | .wrapper => [.header, .body, .footer]

theorem Slots.traverse_eq_error {α β : Type} {f : Slot → α → Except Fault β} {s : Slots α}
    {e : Fault} :
    s.traverse f = .error e ↔ ∃ slot, f slot (s.get slot) = .error e ∧
      ∀ earlier ∈ slot.before, ∃ b, f earlier (s.get earlier) = .ok b := by
  have hpure (r : Slots β) : (pure r : Except Fault (Slots β)) ≠ .error e := nofun
  unfold traverse
  simp only [bind_eq_error, hpure, and_false, exists_false, or_false]
  constructor
  · rintro (h | ⟨header, hheader, h | ⟨body, hbody, h | ⟨footer, hfooter, h⟩⟩⟩)
    · exact ⟨.header, h, nofun⟩
    · refine ⟨.body, h, ?_⟩
      simpa [Slot.before] using ⟨header, hheader⟩
    · refine ⟨.footer, h, ?_⟩
      simpa [Slot.before] using ⟨⟨header, hheader⟩, body, hbody⟩
    · refine ⟨.wrapper, h, ?_⟩
      simpa [Slot.before] using ⟨⟨header, hheader⟩, ⟨body, hbody⟩, footer, hfooter⟩
  · rintro ⟨slot, h, hbefore⟩
    cases slot with
    | header => exact Or.inl h
    | body =>
      obtain ⟨header, hheader⟩ := hbefore .header (by decide)
      exact Or.inr ⟨header, hheader, Or.inl h⟩
    | footer =>
      obtain ⟨header, hheader⟩ := hbefore .header (by decide)
      obtain ⟨body, hbody⟩ := hbefore .body (by decide)
      exact Or.inr ⟨header, hheader, Or.inr ⟨body, hbody, Or.inl h⟩⟩
    | wrapper =>
      obtain ⟨header, hheader⟩ := hbefore .header (by decide)
      obtain ⟨body, hbody⟩ := hbefore .body (by decide)
      obtain ⟨footer, hfooter⟩ := hbefore .footer (by decide)
      exact Or.inr ⟨header, hheader, Or.inr ⟨body, hbody, Or.inr ⟨footer, hfooter, h⟩⟩⟩

namespace Settings

variable {d : Disk} {homes : Homes} {c : Choice} {p : FilePath} {path : Option FilePath}
  {e : Fault}

/-! ## Settings files -/

/-- A settings file that its reader does not foresee: no text, an integer of too many digits, or
something other than a table under `tool`. -/
inductive Misread (d : Disk) (p : FilePath) : Fault → Prop
  | octets {octets : List UInt8} (h : d.read p = .ok octets)
      (hdecode : Text.decode? octets = none) : Misread d p .undecodable
  | tomlInteger (hsuffix : p.suffix = ".toml") (h : ReadsToml d p (.error .integerTooLong)) :
      Misread d p .badValue
  | tool (hsuffix : p.suffix = ".toml") {table : Value.Entries} {v : Value}
      (h : ReadsToml d p (.ok table)) (htool : Value.field "tool" table = some v)
      (hmap : v.isMap = false) : Misread d p .noMember
  | jsonInteger (hsuffix : p.suffix ≠ ".toml") (h : ReadsJson d p (.error .integerTooLong)) :
      Misread d p .badValue

theorem misread_of_not_regular (h : ¬ Regular d p) : ∃ e, Misread d p e := by
  unfold Regular at h
  push Not at h
  obtain ⟨octets, hoctets, h⟩ := h
  have hread : d.read p = .ok octets := toOption_eq_some.mp hoctets
  cases hdecode : Text.decode? octets with
  | none => exact ⟨_, .octets hread hdecode⟩
  | some text =>
    have htext := h text hdecode
    by_cases hsuffix : p.suffix = ".toml"
    · rw [if_pos hsuffix] at htext
      by_cases hlong : Toml.parse text = .error .integerTooLong
      · exact ⟨_, .tomlInteger hsuffix ⟨octets, text, hread, hdecode, hlong⟩⟩
      · push Not at htext
        obtain ⟨table, htable, v, htool, hmap⟩ := htext hlong
        have htable : ReadsToml d p (.ok table) :=
          ⟨octets, text, hread, hdecode, toOption_eq_some.mp htable⟩
        exact ⟨_, .tool hsuffix htable htool (by simpa using hmap)⟩
    · rw [if_neg hsuffix, not_not] at htext
      exact ⟨_, .jsonInteger hsuffix ⟨_, Disk.readText_of_decoded hread hdecode, htext⟩⟩

theorem toolTable_of_misread (hsuffix : p.suffix = ".toml") (h : Misread d p e) :
    toolTable d p = .error e := by
  unfold toolTable
  cases h with
  | octets hread hdecode =>
    simp only [hread, hdecode, Bind.bind, Except.bind]
    rfl
  | tomlInteger _ hlong =>
    obtain ⟨octets, text, hread, hdecode, hparse⟩ := hlong
    simp only [hread, hdecode, hparse, Bind.bind, Except.bind]
    rfl
  | tool _ htable htool hmap =>
    obtain ⟨octets, text, hread, hdecode, hparse⟩ := htable
    simp only [hread, hdecode, hparse, htool, Bind.bind, Except.bind, Option.getD_some]
    split
    · cases hmap
    · rfl
  | jsonInteger hother _ => exact absurd hsuffix hother

theorem readJson_of_misread (hsuffix : p.suffix ≠ ".toml") (h : Misread d p e) :
    readJson d p = .error e := by
  unfold readJson
  cases h with
  | octets hread hdecode =>
    simp only [Disk.readText_of_undecodable hread hdecode, Bind.bind, Except.bind]
  | tomlInteger hother _ => exact absurd hother hsuffix
  | tool hother _ _ _ => exact absurd hother hsuffix
  | jsonInteger _ hlong =>
    obtain ⟨text, htext, hparse⟩ := hlong
    simp only [htext, hparse, Bind.bind, Except.bind]
    rfl

theorem load_of_misread (hfile : d.isFile p = .ok true) (h : Misread d p e) :
    load d p = .error e := by
  by_cases hsuffix : p.suffix = ".toml"
  · exact load_of_bad_table hfile hsuffix (toolTable_of_misread hsuffix h)
  · rw [load_of_json hfile hsuffix, readJson_of_misread hsuffix h]
    rfl

theorem Misread.class_eq_none (h : Misread d p e) : e.class? = none := by
  cases h <;> rfl

theorem failsOnly_toolTable (hfile : d.isFile p = .ok true) (hsuffix : p.suffix = ".toml") :
    FailsOnly (fun e => e.OfSettings ∨ Misread d p e) (toolTable d p) := by
  by_cases hregular : Regular d p
  · rcases hregular.readsToml hfile hsuffix with hmalformed | ⟨table, htable⟩
    · rw [hmalformed.elim toolTable_of_unread toolTable_of_malformed]
      exact .error (Or.inl (.config _))
    · rw [toolTable_of_table htable (hregular.isMap_of_tool hsuffix htable)]
      exact .ok _
  · obtain ⟨e, he⟩ := misread_of_not_regular hregular
    rw [toolTable_of_misread hsuffix he]
    exact .error (Or.inr he)

theorem failsOnly_load {found : Bool} (hfile : d.isFile p = .ok found) :
    FailsOnly (fun e => e.OfSettings ∨ found = true ∧ Misread d p e) (load d p) := by
  by_cases hregular : Regular d p
  · rcases hregular.load_ends hfile with ⟨s, hs⟩ | ⟨cause, hload⟩
    · rw [load_of_holds hs]
      exact .ok s
    · rw [hload]
      exact .error (Or.inl (.config cause))
  · cases found with
    | false =>
      rw [load_of_missing hfile]
      exact .error (Or.inl (.config _))
    | true =>
      obtain ⟨e, he⟩ := misread_of_not_regular hregular
      rw [load_of_misread hfile he]
      exact .error (Or.inr ⟨rfl, he⟩)

/-! ## The settings of a run -/

/-- What the resolution of the settings does not foresee: a file that the system refuses to be asked
about, and one that is misread. -/
inductive Unforeseen (d : Disk) (c : Choice) : Fault → Prop
  | unsearched {f : SystemFault} (h : Unsearched d c f) : Unforeseen d c (.system f)
  | misread {p : FilePath} {e : Fault} (h : Sought d c p) (hfile : d.isFile p = .ok true)
      (he : Misread d p e) : Unforeseen d c e

theorem resolve_of_load_error (hlocated : located d c = .ok (some p)) (h : load d p = .error e) :
    resolve d c = .error e := by
  rw [resolve_of_loaded hlocated h]
  rfl

theorem resolve_of_unforeseen (h : Unforeseen d c e) : resolve d c = .error e := by
  cases h with
  | unsearched h => exact resolve_of_unsearched h
  | misread h hfile he =>
    cases h with
    | named h => exact resolve_of_load_error (located_of_named h) (load_of_misread hfile he)
    | json h => exact resolve_of_load_error (located_of_json h hfile) (load_of_misread hfile he)
    | project h =>
      -- The table decides already whether `pyproject.toml` is the settings file.
      refine resolve_of_located_error ?_
      simp only [h.located_eq, hfile, toolTable_of_misread projectFile_suffix he, Bind.bind,
        Except.bind]
      rfl

theorem Unforeseen.class_eq_none (h : Unforeseen d c e) : e.class? = none := by
  cases h with
  | unsearched _ => rfl
  | misread _ _ he => exact he.class_eq_none

theorem Unforeseen.of_isFile (h : Sought d c p) (he : d.isFile p = .error e) :
    Unforeseen d c e := by
  obtain ⟨f, hunsearched, rfl⟩ := h.unsearched he
  exact .unsearched hunsearched

inductive SearchEnds (d : Disk) (c : Choice) : Except Fault (Option FilePath) → Prop
  | found {p : FilePath} (h : Sought d c p) : SearchEnds d c (.ok (some p))
  | none : SearchEnds d c (.ok none)
  | foreseen {e : Fault} (h : e.OfSettings) : SearchEnds d c (.error e)
  | unforeseen {e : Fault} (h : Unforeseen d c e) : SearchEnds d c (.error e)

theorem searchEnds_located : SearchEnds d c (located d c) := by
  cases search d c with
  | named h =>
    rw [located_of_named h]
    exact .found (.named h)
  | jsonFails h hjson =>
    rw [located_of_json_error h hjson]
    exact .unforeseen (.of_isFile (.json h) hjson)
  | json h hjson =>
    rw [located_of_json h hjson]
    exact .found (.json h)
  | projectFails h hfile =>
    rw [h.located_of_error hfile]
    exact .unforeseen (.of_isFile (.project h) hfile)
  | noProject h hfile =>
    rw [h.located_eq, hfile]
    exact .none
  | project h hfile =>
    rw [h.located_eq, hfile]
    cases htable : toolTable d (projectFile d) with
    | ok v =>
      cases v with
      | none => exact .none
      | some v => exact .found (.project h)
    | error e =>
      rcases failsOnly_toolTable hfile projectFile_suffix e htable with he | he
      · exact .foreseen he
      · exact .unforeseen (.misread (.project h) hfile he)

theorem failsOnly_finished (c : Choice) (path : Option FilePath) (s : Settings) :
    FailsOnly Fault.OfSettings (finished c path s) := by
  unfold finished
  split
  · exact .error .urlMissing
  · exact .ok _

theorem failsOnly_resolve :
    FailsOnly (fun e => e.OfSettings ∨ Unforeseen d c e) (resolve d c) := by
  have hfinished (path : Option FilePath) (s : Settings) :
      FailsOnly (fun e => e.OfSettings ∨ Unforeseen d c e) (finished c path s) :=
    (failsOnly_finished c path s).mono fun e => Or.inl
  rw [resolve_eq]
  have hsearch : SearchEnds d c (located d c) := searchEnds_located
  generalize located d c = x at hsearch
  cases hsearch with
  | none => exact hfinished none default
  | foreseen h => exact .error (Or.inl h)
  | unforeseen h => exact .error (Or.inr h)
  | @found p h =>
    change FailsOnly _ (load d p >>= finished c (some p))
    refine FailsOnly.bind ?_ (hfinished (some p))
    cases hfile : d.isFile p with
    | error e =>
      rw [load_of_error hfile]
      exact .error (Or.inr (.of_isFile h hfile))
    | ok found =>
      refine (failsOnly_load hfile).mono ?_
      rintro e (he | ⟨rfl, he⟩)
      · exact Or.inl he
      · exact Or.inr (.misread h hfile he)

/-! ## The templates of a run -/

/-- A template that its reader does not foresee: the path after `file:` leads into a home that is
not known, or no text can be read there. -/
inductive TemplateMisread (d : Disk) (homes : Homes) (dir : FilePath) (value : String) :
    Fault → Prop
  | home {path user : String} {rest : List String} {e : Fault} (hvalue : value = "file:" ++ path)
      (hp : Homes.Enters (.ofString path) user rest) (h : homes.Lacks user e) :
      TemplateMisread d homes dir value e
  | file {path : String} {p : FilePath} {e : Fault} (hvalue : value = "file:" ++ path)
      (hp : Leads homes dir (.ofString path) p) (h : d.Unreadable p e) :
      TemplateMisread d homes dir value e

theorem TemplateMisread.class_eq_none {dir : FilePath} {value : String}
    (h : TemplateMisread d homes dir value e) : e.class? = none := by
  cases h with
  | home _ _ h => exact h.class_eq_none
  | file _ _ h => exact h.class_eq_none

theorem failsOnly_readTemplate :
    FailsOnly (fun e => e.OfSettings ∨ d.Unreadable p e) (readTemplate d p) := by
  unfold readTemplate
  split
  · exact .ok _
  · exact .error (Or.inl (.config _))
  · next e hsystem he =>
    rcases Disk.failsOnly_readText e he with ⟨f, rfl⟩ | h
    · exact absurd rfl (hsystem f)
    · exact .error (Or.inr h)

theorem readTemplate_of_unreadable (h : d.Unreadable p e) : readTemplate d p = .error e := by
  unfold readTemplate
  rw [Disk.readText_of_unreadable h]
  cases h <;> rfl

theorem templateText_of_misread {value : String}
    (h : TemplateMisread d homes (templateDir path) value e) :
    templateText d homes (path.map FilePath.parent) value = .error e := by
  cases h with
  | home hvalue hp h =>
    rw [templateText_eq hvalue, Homes.expand_eq_error.mpr ⟨_, _, hp, h⟩]
    rfl
  | file hvalue hp h =>
    rw [templateText_eq hvalue, expand_leads.mpr hp]
    exact readTemplate_of_unreadable h

theorem failsOnly_templateText (value : String) :
    FailsOnly (fun e => e.OfSettings ∨ TemplateMisread d homes (templateDir path) value e)
      (templateText d homes (path.map FilePath.parent) value) := by
  rcases inline_or_file value with hinline | ⟨name, hvalue⟩
  · rw [templateText_of_inline hinline]
    exact .ok value
  · rw [templateText_eq hvalue]
    refine FailsOnly.bind_of_ok (fun e he => ?_) fun p hp => ?_
    · rw [map_eq_error, Homes.expand_eq_error] at he
      obtain ⟨user, rest, hp, hlacks⟩ := he
      exact Or.inr (.home hvalue hp hlacks)
    · refine failsOnly_readTemplate.mono fun e he => he.imp_right fun h => ?_
      exact .file hvalue (expand_leads.mp hp) h

theorem readSlot_eq_error {base : Option FilePath} {given : Option String} :
    readSlot d homes base given = .error e ↔
      ∃ value, given = some value ∧ templateText d homes base value = .error e := by
  cases given with
  | none => simp [readSlot]
  | some value => simp [readSlot, map_eq_error]

/-- The slots fail with what is given for one of them, where those before it have their texts. -/
theorem templateTexts_eq_error {packaged : Slots String} {given : Slots (Option String)} :
    templateTexts d homes (path.map FilePath.parent) packaged given = .error e ↔
      ∃ slot value, given.get slot = some value ∧
        templateText d homes (path.map FilePath.parent) value = .error e ∧
        ∀ earlier ∈ slot.before, ∃ text, SlotText d homes (templateDir path) (packaged.get earlier)
          (given.get earlier) text := by
  rw [templateTexts_eq, map_eq_error, Slots.traverse_eq_error]
  have htext (slot : Slot) :
      (∃ text, SlotText d homes (templateDir path) (packaged.get slot) (given.get slot) text) ↔
        ∃ found, readSlot d homes (path.map FilePath.parent) (given.get slot) = .ok found := by
    simp only [slotText_iff]
    exact ⟨fun ⟨_, found, h, _⟩ => ⟨found, h⟩, fun ⟨found, h⟩ => ⟨_, found, h, rfl⟩⟩
  simp only [htext, readSlot_eq_error]
  constructor
  · rintro ⟨slot, ⟨value, hvalue, h⟩, hbefore⟩
    exact ⟨slot, value, hvalue, h, hbefore⟩
  · rintro ⟨slot, value, hvalue, h, hbefore⟩
    exact ⟨slot, ⟨value, hvalue, h⟩, hbefore⟩

/-! ## Both together -/

variable {packaged : Slots String}

/-- What the preparation of a run does not foresee: it is in the settings, or, where these are
resolved, in the first template that cannot be read. -/
inductive Unprepared (d : Disk) (homes : Homes) (packaged : Slots String) (c : Choice) : Fault → Prop
  | settings {e : Fault} (h : Unforeseen d c e) : Unprepared d homes packaged c e
  | template {s : Settings} {path : Option FilePath} (hs : resolve d c = .ok (s, path))
      {slot : Slot} {value : String} {e : Fault} (hvalue : s.templates.get slot = some value)
      (he : TemplateMisread d homes (templateDir path) value e)
      (hbefore : ∀ earlier ∈ slot.before, ∃ text, SlotText d homes (templateDir path)
        (packaged.get earlier) (s.templates.get earlier) text) : Unprepared d homes packaged c e

theorem prepare_of_resolved {s : Settings} {path : Option FilePath}
    (hs : resolve d c = .ok (s, path)) :
    prepare d homes packaged c = (templateTexts d homes (path.map FilePath.parent) packaged
      s.templates).map (s, ·) := by
  unfold prepare
  simp only [hs, Bind.bind, Except.bind]
  cases templateTexts d homes (path.map FilePath.parent) packaged s.templates <;> rfl

theorem prepare_of_unresolved (h : resolve d c = .error e) :
    prepare d homes packaged c = .error e := by
  unfold prepare
  rw [h]
  rfl

theorem prepare_of_unprepared (h : Unprepared d homes packaged c e) :
    prepare d homes packaged c = .error e ∧ e.class? = none := by
  cases h with
  | settings h => exact ⟨prepare_of_unresolved (resolve_of_unforeseen h), h.class_eq_none⟩
  | template hs hvalue he hbefore =>
    refine ⟨?_, he.class_eq_none⟩
    rw [prepare_of_resolved hs, map_eq_error]
    exact templateTexts_eq_error.mpr ⟨_, _, hvalue, templateText_of_misread he, hbefore⟩

theorem failsOnly_prepare :
    FailsOnly (fun e => e.OfSettings ∨ Unprepared d homes packaged c e)
      (prepare d homes packaged c) := by
  cases hs : resolve d c with
  | error e =>
    rw [prepare_of_unresolved hs]
    exact .error ((failsOnly_resolve e hs).imp_right .settings)
  | ok resolved =>
    obtain ⟨s, path⟩ := resolved
    rw [prepare_of_resolved hs]
    refine FailsOnly.map ?_ _
    intro e he
    obtain ⟨slot, value, hvalue, he, hbefore⟩ := templateTexts_eq_error.mp he
    exact (failsOnly_templateText value e he).imp_right fun h => .template hs hvalue h hbefore

end Settings

end ClientCompiler
