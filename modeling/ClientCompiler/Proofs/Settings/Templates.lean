import ClientCompiler.Proofs.Files.Home
import ClientCompiler.Settings.Resolution

/-!
The templates of a run. A slot that is not given keeps the packaged text, a text stands for itself,
and after `file:` comes the path of a file, where a tilde is a home. A relative path starts at the
directory of the settings file, or at the work directory if there is none.
-/

namespace ClientCompiler

namespace Slots

variable {α β : Type}

theorem eq_iff_get {s r : Slots α} : s = r ↔ ∀ slot, s.get slot = r.get slot := by
  constructor
  · rintro rfl slot
    rfl
  · intro h
    obtain ⟨header, body, footer, wrapper⟩ := s
    obtain rfl : header = r.header := h .header
    obtain rfl : body = r.body := h .body
    obtain rfl : footer = r.footer := h .footer
    obtain rfl : wrapper = r.wrapper := h .wrapper
    rfl

theorem exists_get_iff {R : Slot → α → Prop} :
    (∃ s : Slots α, ∀ slot, R slot (s.get slot)) ↔ ∀ slot, ∃ a, R slot a := by
  constructor
  · rintro ⟨s, h⟩ slot
    exact ⟨s.get slot, h slot⟩
  · intro h
    choose at_ hat using h
    refine ⟨⟨at_ .header, at_ .body, at_ .footer, at_ .wrapper⟩, fun slot => ?_⟩
    cases slot with
    | header => exact hat .header
    | body => exact hat .body
    | footer => exact hat .footer
    | wrapper => exact hat .wrapper

theorem get_map₂ {γ : Type} (f : α → β → γ) (s : Slots α) (r : Slots β) (slot : Slot) :
    (s.map₂ f r).get slot = f (s.get slot) (r.get slot) := by
  cases slot <;> rfl

theorem traverse_eq_ok {f : Slot → α → Except Fault β} {s : Slots α} {r : Slots β} :
    s.traverse f = .ok r ↔ ∀ slot, f slot (s.get slot) = .ok (r.get slot) := by
  unfold traverse
  simp only [bind_eq_ok, pure_eq_ok]
  constructor
  · rintro ⟨header, hheader, body, hbody, footer, hfooter, wrapper, hwrapper, rfl⟩ slot
    cases slot with
    | header => exact hheader
    | body => exact hbody
    | footer => exact hfooter
    | wrapper => exact hwrapper
  · intro h
    exact ⟨_, h .header, _, h .body, _, h .footer, _, h .wrapper, rfl⟩

end Slots

namespace Settings

/-- Where relative paths of templates start. -/
def templateDir (file : Option FilePath) : FilePath :=
  match file with
  | some p => p.parent
  | none => ⟨0, []⟩

inductive Leads (homes : Homes) (dir p : FilePath) : FilePath → Prop where
  | absolute {q : FilePath} (h : homes.Expands p q) (habsolute : q.isAbsolute = true) :
      Leads homes dir p q
  | relative {q : FilePath} (h : homes.Expands p q) (hrelative : q.isAbsolute = false) :
      Leads homes dir p ⟨dir.slashes, dir.names ++ q.names⟩

/-- The text of a slot, from what is given for it. -/
inductive SlotText (d : Disk) (homes : Homes) (dir : FilePath) (packaged : String) :
    Option String → String → Prop where
  | kept : SlotText d homes dir packaged none packaged
  | inline {value : String} (h : ¬ "file:".toList <+: value.toList) :
      SlotText d homes dir packaged (some value) value
  | file {value path : String} {p : FilePath} {text : List Char} (hvalue : value = "file:" ++ path)
      (hp : Leads homes dir (FilePath.ofString path) p) (htext : d.readText p = .ok text) :
      SlotText d homes dir packaged (some value) (String.ofList text)

variable {d : Disk} {homes : Homes} {file : Option FilePath} {p q : FilePath}
  {packaged value text : String}

def seenFrom (file : Option FilePath) (p : FilePath) : FilePath :=
  match file with
  | some f => f.parent.under p
  | none => p

theorem seenFrom_of_absolute (h : p.isAbsolute = true) : seenFrom file p = p := by
  cases file with
  | some f => simp [seenFrom, FilePath.under, h]
  | none => rfl

theorem seenFrom_of_relative (h : p.isAbsolute = false) :
    seenFrom file p = ⟨(templateDir file).slashes, (templateDir file).names ++ p.names⟩ := by
  cases file with
  | some f => simp [seenFrom, FilePath.under, h, templateDir]
  | none =>
    obtain ⟨slashes, names⟩ := p
    have hslashes : slashes = 0 := by simpa [FilePath.isAbsolute] using h
    rw [hslashes]
    rfl

theorem expand_leads :
    (homes.expand p).map (seenFrom file) = .ok q ↔ Leads homes (templateDir file) p q := by
  simp only [map_eq_ok, Homes.expand_eq_ok]
  constructor
  · rintro ⟨r, hr, rfl⟩
    cases hroot : r.isAbsolute with
    | true =>
      rw [seenFrom_of_absolute hroot]
      exact .absolute hr hroot
    | false =>
      rw [seenFrom_of_relative hroot]
      exact .relative hr hroot
  · intro hleads
    cases hleads with
    | absolute hr habsolute => exact ⟨q, hr, seenFrom_of_absolute habsolute⟩
    | relative hr hrelative => exact ⟨_, hr, seenFrom_of_relative hrelative⟩

theorem file_isPrefix {path : String} (hvalue : value = "file:" ++ path) :
    "file:".toList <+: value.toList := by
  rw [hvalue, String.toList_append]
  exact List.prefix_append _ _

theorem inline_or_file (value : String) :
    ¬ "file:".toList <+: value.toList ∨ ∃ path, value = "file:" ++ path := by
  by_cases h : "file:".toList <+: value.toList
  · obtain ⟨path, hpath⟩ := h
    refine Or.inr ⟨String.ofList path, ?_⟩
    have hafter : (String.ofList path).toList = path := String.toList_ofList
    rw [← String.toList_inj, String.toList_append, hafter, hpath]
  · exact Or.inl h

theorem templateText_of_inline (h : ¬ "file:".toList <+: value.toList) :
    templateText d homes (file.map FilePath.parent) value = .ok value := by
  have hnone : Text.dropPrefix? "file:".toList value.toList = none := by
    rw [Option.eq_none_iff_forall_ne_some]
    intro r hr
    exact h ⟨r, (Text.eq_append_of_dropPrefix? hr).symm⟩
  unfold templateText
  rw [hnone]

def readTemplate (d : Disk) (p : FilePath) : Except Fault String :=
  match d.readText p with
  | .ok s => .ok (String.ofList s)
  | .error (.system e) => fault (.templateUnreadable p.text (e.message p.text))
  | .error e => .error e

theorem readTemplate_eq_ok :
    readTemplate d p = .ok text ↔ ∃ s, d.readText p = .ok s ∧ text = String.ofList s := by
  unfold readTemplate
  cases d.readText p with
  | ok s => simp [eq_comm]
  | error e => cases e <;> simp [fault]

theorem templateText_eq {path : String} (hvalue : value = "file:" ++ path) :
    templateText d homes (file.map FilePath.parent) value =
      (homes.expand (.ofString path)).map (seenFrom file) >>= readTemplate d := by
  have hdrop : Text.dropPrefix? "file:".toList value.toList = some path.toList := by
    rw [hvalue, String.toList_append]
    exact Text.dropPrefix?_append _ _
  unfold templateText
  rw [hdrop]
  dsimp only
  rw [String.ofList_toList]
  cases homes.expand (.ofString path) with
  | error e => rfl
  | ok p => cases file <;> rfl

theorem templateText_of_file {path : String} (hvalue : value = "file:" ++ path) :
    templateText d homes (file.map FilePath.parent) value = .ok text ↔
      ∃ p s, Leads homes (templateDir file) (FilePath.ofString path) p ∧ d.readText p = .ok s ∧
        text = String.ofList s := by
  simp only [← expand_leads, exists_and_left, ← readTemplate_eq_ok]
  rw [templateText_eq hvalue, bind_eq_ok]

theorem templateText_eq_ok :
    templateText d homes (file.map FilePath.parent) value = .ok text ↔
      SlotText d homes (templateDir file) packaged (some value) text := by
  rcases inline_or_file value with hinline | ⟨path, hvalue⟩
  · rw [templateText_of_inline hinline]
    constructor
    · intro h
      obtain rfl := Except.ok.inj h
      exact .inline hinline
    · intro h
      cases h with
      | inline _ => rfl
      | file hvalue _ _ => exact absurd (file_isPrefix hvalue) hinline
  · rw [templateText_of_file hvalue]
    constructor
    · rintro ⟨p, s, hp, hs, rfl⟩
      exact .file hvalue hp hs
    · intro h
      cases h with
      | inline hno => exact absurd (file_isPrefix hvalue) hno
      | file hother hp hs =>
        obtain rfl := String.append_right_inj _ |>.mp (hvalue.symm.trans hother)
        exact ⟨_, _, hp, hs, rfl⟩

def readSlot (d : Disk) (homes : Homes) (base : Option FilePath) (given : Option String) :
    Except Fault (Option String) :=
  match given with
  | some value => (templateText d homes base value).map some
  | none => .ok none

theorem slotText_iff {given : Option String} :
    SlotText d homes (templateDir file) packaged given text ↔
      ∃ found, readSlot d homes (file.map FilePath.parent) given = .ok found ∧
        found.getD packaged = text := by
  cases given with
  | none =>
    constructor
    · intro h
      cases h with
      | kept => exact ⟨none, rfl, rfl⟩
    · rintro ⟨found, hfound, rfl⟩
      obtain rfl := Except.ok.inj hfound
      exact .kept
  | some value =>
    rw [← templateText_eq_ok]
    constructor
    · intro h
      exact ⟨some text, map_eq_ok.mpr ⟨text, h, rfl⟩, rfl⟩
    · rintro ⟨_, hread, rfl⟩
      obtain ⟨text, htext, rfl⟩ := map_eq_ok.mp hread
      exact htext

theorem templateTexts_eq (base : Option FilePath) (packaged : Slots String)
    (given : Slots (Option String)) :
    templateTexts d homes base packaged given =
      (given.traverse fun _ => readSlot d homes base).map
        (·.map₂ (fun found text => found.getD text) packaged) := by
  unfold templateTexts
  cases h : given.traverse fun _ => readSlot d homes base with
  | ok read => exact congrArg (· >>= _) h
  | error e => exact congrArg (· >>= _) h

theorem templateTexts_eq_ok {packaged texts : Slots String} {given : Slots (Option String)} :
    templateTexts d homes (file.map FilePath.parent) packaged given = .ok texts ↔
      ∀ slot, SlotText d homes (templateDir file) (packaged.get slot) (given.get slot)
        (texts.get slot) := by
  simp only [slotText_iff]
  rw [← Slots.exists_get_iff, templateTexts_eq, map_eq_ok]
  simp only [Slots.traverse_eq_ok, Slots.eq_iff_get, Slots.get_map₂, ← forall_and]

end Settings

end ClientCompiler
