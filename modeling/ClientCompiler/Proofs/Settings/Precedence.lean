import ClientCompiler.Proofs.Files.Tree
import ClientCompiler.Proofs.Settings.Files
import ClientCompiler.Proofs.Settings.Templates

/-!
The precedence of the settings. One file at most is used: the one on the command line, else
`specgen.json`, else `pyproject.toml` if it has a table for this program. What the command line
says about the address and the directory comes before what the file says, and that before the
defaults; the templates are those of the file.
-/

namespace ClientCompiler.Settings

variable {d : Disk} {c : Choice} {p : FilePath} {path : Option FilePath} {s : Settings}

/-! ## The file that is used -/

def Choice.named? (c : Choice) : Option FilePath := (c.file.filter (· ≠ "")).map FilePath.ofString

def jsonFile (d : Disk) : FilePath := d.workPath.child "specgen.json"

def projectFile (d : Disk) : FilePath := d.workPath.child "pyproject.toml"

/-- The files that may hold the settings of a run. -/
def files (d : Disk) (c : Choice) : List FilePath :=
  c.named?.toList ++ [jsonFile d, projectFile d]

/-- No file comes before `pyproject.toml`. -/
structure ReachesProject (d : Disk) (c : Choice) : Prop where
  named : c.named? = none
  json : d.isFile (jsonFile d) = .ok false

/-- The file that is used, or that no file is. -/
inductive Chosen (d : Disk) (c : Choice) : Option FilePath → Prop where
  | named {p : FilePath} (h : c.named? = some p) : Chosen d c (some p)
  | json (hnamed : c.named? = none) (hfile : d.isFile (jsonFile d) = .ok true) :
      Chosen d c (some (jsonFile d))
  | project (h : ReachesProject d c) (hfile : d.isFile (projectFile d) = .ok true)
      {table found : Value.Entries} (htable : ReadsToml d (projectFile d) (.ok table))
      (hfound : ownTable? table = some found) : Chosen d c (some (projectFile d))
  | noProject (h : ReachesProject d c) (hfile : d.isFile (projectFile d) = .ok false) :
      Chosen d c none
  | noTable (h : ReachesProject d c) (hfile : d.isFile (projectFile d) = .ok true)
      {table : Value.Entries} (htable : ReadsToml d (projectFile d) (.ok table))
      (hfound : ownTable? table = none) : Chosen d c none

/-- The search comes to a `pyproject.toml` that cannot be read or is no TOML. -/
structure Unparsable (d : Disk) (c : Choice) : Prop where
  reached : ReachesProject d c
  file : d.isFile (projectFile d) = .ok true
  malformed : Unread d (projectFile d) ∨ ReadsToml d (projectFile d) (.error .malformed)

/-- The files that the search for the settings asks for, until it has found one. -/
inductive Sought (d : Disk) (c : Choice) : FilePath → Prop
  | named {p : FilePath} (h : c.named? = some p) : Sought d c p
  | json (h : c.named? = none) : Sought d c (jsonFile d)
  | project (h : ReachesProject d c) : Sought d c (projectFile d)

/-- A file that is looked for and that the system does not say to be there or not. -/
def Unsearched (d : Disk) (c : Choice) (f : SystemFault) : Prop :=
  ∃ p, Sought d c p ∧ d.Refuses p f

def located (d : Disk) (c : Choice) : Except Fault (Option FilePath) :=
  match c.named? with
  | some p => .ok (some p)
  | none => find d d.workPath

theorem projectFile_suffix : (projectFile d).suffix = ".toml" := by
  unfold projectFile FilePath.suffix
  rw [FilePath.name_child]
  decide

theorem located_of_named (h : c.named? = some p) : located d c = .ok (some p) := by
  unfold located
  rw [h]

theorem located_of_json (h : c.named? = none) (hfile : d.isFile (jsonFile d) = .ok true) :
    located d c = .ok (some (jsonFile d)) := by
  unfold jsonFile at hfile
  simp only [located, h, find, hfile, Bind.bind, Except.bind]
  rfl

theorem located_of_json_error {e : Fault} (h : c.named? = none)
    (hfile : d.isFile (jsonFile d) = .error e) : located d c = .error e := by
  unfold jsonFile at hfile
  simp only [located, h, find, hfile, Bind.bind, Except.bind]

theorem ReachesProject.located_eq (h : ReachesProject d c) :
    located d c = do
      if ← d.isFile (projectFile d) then
        return if (← toolTable d (projectFile d)).isSome then some (projectFile d) else none
      else return none := by
  obtain ⟨hnamed, hjson⟩ := h
  unfold jsonFile at hjson
  simp only [located, hnamed, find, hjson, Bind.bind, Except.bind]
  rfl

theorem ReachesProject.located_of_error {e : Fault} (h : ReachesProject d c)
    (hfile : d.isFile (projectFile d) = .error e) : located d c = .error e := by
  simp only [h.located_eq, hfile, Bind.bind, Except.bind]

theorem projectFile_mem_files : projectFile d ∈ files d c := by
  simp [files]

theorem mem_files (h : Chosen d c (some p)) : p ∈ files d c := by
  cases h with
  | named h => simp [files, h]
  | json _ _ => simp [files]
  | project _ _ _ _ => exact projectFile_mem_files

theorem Chosen.sought (h : Chosen d c (some p)) : Sought d c p := by
  cases h with
  | named h => exact .named h
  | json h _ => exact .json h
  | project h _ _ _ => exact .project h

theorem Sought.unsearched {e : Fault} (h : Sought d c p) (hfile : d.isFile p = .error e) :
    ∃ f, Unsearched d c f ∧ e = .system f := by
  obtain ⟨f, hrefuses, rfl⟩ := Disk.isFile_eq_error.mp hfile
  exact ⟨f, ⟨p, h, hrefuses⟩, rfl⟩

theorem located_of_chosen (hproject : Regular d (projectFile d)) (h : Chosen d c path) :
    located d c = .ok path := by
  cases h with
  | named h => exact located_of_named h
  | json hnamed hfile => exact located_of_json hnamed hfile
  | project h hfile htable hfound =>
    have htool := toolTable_of_table htable (isMap_of_ownTable hfound)
    rw [hfound] at htool
    simp only [h.located_eq, hfile, htool, Bind.bind, Except.bind]
    rfl
  | noProject h hfile =>
    simp only [h.located_eq, hfile, Bind.bind, Except.bind]
    rfl
  | noTable h hfile htable hfound =>
    have htool := toolTable_of_table htable (hproject.isMap_of_tool projectFile_suffix htable)
    rw [hfound] at htool
    simp only [h.located_eq, hfile, htool, Bind.bind, Except.bind]
    rfl

theorem located_of_unparsable (h : Unparsable d c) :
    located d c = .error (.config (.malformedTable (projectFile d).text)) := by
  have htool := h.malformed.elim toolTable_of_unread toolTable_of_malformed
  simp only [h.reached.located_eq, h.file, htool, Bind.bind, Except.bind]
  rfl

inductive Search (d : Disk) (c : Choice) : Prop where
  | named {p : FilePath} (h : c.named? = some p)
  | jsonFails {e : Fault} (h : c.named? = none) (hjson : d.isFile (jsonFile d) = .error e)
  | json (h : c.named? = none) (hjson : d.isFile (jsonFile d) = .ok true)
  | projectFails {e : Fault} (h : ReachesProject d c)
      (hfile : d.isFile (projectFile d) = .error e)
  | noProject (h : ReachesProject d c) (hfile : d.isFile (projectFile d) = .ok false)
  | project (h : ReachesProject d c) (hfile : d.isFile (projectFile d) = .ok true)

theorem search (d : Disk) (c : Choice) : Search d c := by
  cases hnamed : c.named? with
  | some p => exact .named hnamed
  | none =>
    cases hjson : d.isFile (jsonFile d) with
    | error e => exact .jsonFails hnamed hjson
    | ok found =>
      cases found with
      | true => exact .json hnamed hjson
      | false =>
        have hreached : ReachesProject d c := ⟨hnamed, hjson⟩
        cases hfile : d.isFile (projectFile d) with
        | error e => exact .projectFails hreached hfile
        | ok found =>
          cases found with
          | false => exact .noProject hreached hfile
          | true => exact .project hreached hfile

/-- The search ends with a file or with none, unless `pyproject.toml` is no TOML or the system
refuses to be asked about a file. -/
theorem search_ends (hproject : Regular d (projectFile d)) :
    (∃ path, Chosen d c path) ∨ Unparsable d c ∨
      ∃ p, Sought d c p ∧ ∃ e, d.isFile p = .error e := by
  cases search d c with
  | named h => exact Or.inl ⟨_, .named h⟩
  | jsonFails h hjson => exact Or.inr (Or.inr ⟨_, .json h, _, hjson⟩)
  | json h hjson => exact Or.inl ⟨_, .json h hjson⟩
  | projectFails h hfile => exact Or.inr (Or.inr ⟨_, .project h, _, hfile⟩)
  | noProject h hfile => exact Or.inl ⟨none, .noProject h hfile⟩
  | project h hfile =>
    rcases hproject.readsToml hfile projectFile_suffix with hmalformed | ⟨table, htable⟩
    · exact Or.inr (Or.inl ⟨h, hfile, hmalformed⟩)
    · cases hfound : ownTable? table with
      | some found => exact Or.inl ⟨_, .project h hfile htable hfound⟩
      | none => exact Or.inl ⟨none, .noTable h hfile htable hfound⟩

/-! ## The settings that result -/

/-- The settings before the command line: those of the file, or the defaults without one. -/
def Given (d : Disk) (path : Option FilePath) (s : Settings) : Prop :=
  match path with
  | some p => Holds d p s
  | none => s = default

def merged (c : Choice) (s : Settings) : Settings where
  url := match c.url with
    | some url => some url
    | none => s.url
  dir := match c.dir with
    | some dir => dir
    | none => s.dir
  templates := s.templates

def HasUrl (s : Settings) : Prop := ∃ url, s.url = some url ∧ url ≠ ""

structure Unusable (d : Disk) (p : FilePath) : Prop where
  asked : ∃ found, d.isFile p = .ok found
  holdsNone : ∀ s, ¬ Holds d p s

def Refused (d : Disk) (c : Choice) : Prop :=
  Unparsable d c ∨ ∃ p, Chosen d c (some p) ∧ Unusable d p

/-- How the settings of a run are resolved. -/
inductive Ends (d : Disk) (c : Choice) : Except Fault (Settings × Option FilePath) → Prop where
  | resolved {path : Option FilePath} {s : Settings} (hpath : Chosen d c path)
      (hs : Given d path s) (hurl : HasUrl (merged c s)) : Ends d c (.ok (merged c s, path))
  | urlMissing {path : Option FilePath} {s : Settings} (hpath : Chosen d c path)
      (hs : Given d path s) (hurl : ¬ HasUrl (merged c s)) : Ends d c (.error .urlMissing)
  | refused {cause : ConfigCause} (h : Refused d c) : Ends d c (.error (.config cause))
  | unsearched {f : SystemFault} (h : Unsearched d c f) : Ends d c (.error (.system f))

theorem hasUrl_iff : HasUrl s ↔ (s.url.getD "").isEmpty = false := by
  unfold HasUrl
  cases s.url with
  | none => simp
  | some url => simp

def finished (c : Choice) (path : Option FilePath) (s : Settings) :
    Except Fault (Settings × Option FilePath) :=
  if ((merged c s).url.getD "").isEmpty then .error .urlMissing else .ok (merged c s, path)

theorem finished_of_hasUrl (h : HasUrl (merged c s)) :
    finished c path s = .ok (merged c s, path) := by
  unfold finished
  rw [hasUrl_iff.mp h]
  rfl

theorem finished_of_no_url (h : ¬ HasUrl (merged c s)) :
    finished c path s = .error .urlMissing := by
  have hempty : ((merged c s).url.getD "").isEmpty = true := by
    simpa [hasUrl_iff] using h
  unfold finished
  rw [if_pos hempty]

def loaded (d : Disk) (path : Option FilePath) : Except Fault Settings :=
  match path with
  | some p => load d p
  | none => .ok default

theorem merged_eq (c : Choice) (s : Settings) :
    merged c s = { s with url := c.url <|> s.url, dir := c.dir.getD s.dir } := by
  obtain ⟨url, dir, file⟩ := c
  cases url <;> cases dir <;> rfl

theorem loaded_bind_finished (d : Disk) (c : Choice) (path : Option FilePath) :
    loaded d path >>= finished c path = (do
      let s ← match path with
        | some p => load d p
        | none => .ok default
      let s := { s with url := c.url <|> s.url, dir := c.dir.getD s.dir }
      if (s.url.getD "").isEmpty then throw .urlMissing
      return (s, path)) := by
  unfold finished
  simp only [merged_eq]
  cases path with
  | some p => rfl
  | none => rfl

theorem resolve_eq (d : Disk) (c : Choice) :
    resolve d c = located d c >>= fun path => loaded d path >>= finished c path := by
  simp only [loaded_bind_finished]
  unfold resolve located Choice.named?
  cases c.file.filter (· ≠ "") with
  | some file => rfl
  | none => rfl

theorem resolve_of_located_error {e : Fault} (h : located d c = .error e) :
    resolve d c = .error e := by
  rw [resolve_eq, h]
  rfl

theorem resolve_of_loaded {x : Except Fault Settings} (h : located d c = .ok path)
    (hloaded : loaded d path = x) : resolve d c = x >>= finished c path := by
  rw [resolve_eq, h, ← hloaded]
  rfl

theorem loaded_of_given (h : Given d path s) : loaded d path = .ok s := by
  cases path with
  | some p => exact load_of_holds h
  | none =>
    obtain rfl : s = default := h
    rfl

theorem resolve_of_given (hproject : Regular d (projectFile d)) (hpath : Chosen d c path)
    (hs : Given d path s) : resolve d c = finished c path s := by
  rw [resolve_of_loaded (located_of_chosen hproject hpath) (loaded_of_given hs)]
  rfl

theorem resolve_of_refused (hregular : ∀ p ∈ files d c, Regular d p) (h : Refused d c) :
    ∃ cause, resolve d c = .error (.config cause) := by
  have hproject : Regular d (projectFile d) := hregular _ projectFile_mem_files
  rcases h with h | ⟨p, hchosen, hunusable⟩
  · exact ⟨_, resolve_of_located_error (located_of_unparsable h)⟩
  · obtain ⟨found, hfile⟩ := hunusable.asked
    rcases (hregular p (mem_files hchosen)).load_ends hfile with ⟨s, hs⟩ | ⟨cause, hload⟩
    · exact absurd hs (hunusable.holdsNone s)
    · refine ⟨cause, ?_⟩
      rw [resolve_of_loaded (located_of_chosen hproject hchosen) hload]
      rfl

theorem Sought.resolve_of_error {e : Fault} (h : Sought d c p) (hfile : d.isFile p = .error e) :
    resolve d c = .error e := by
  cases h with
  | named h =>
    rw [resolve_of_loaded (located_of_named h) (load_of_error hfile)]
    rfl
  | json h => exact resolve_of_located_error (located_of_json_error h hfile)
  | project h => exact resolve_of_located_error (h.located_of_error hfile)

theorem resolve_of_unsearched {f : SystemFault} (h : Unsearched d c f) :
    resolve d c = .error (.system f) := by
  obtain ⟨p, hsought, hrefuses⟩ := h
  exact hsought.resolve_of_error (Disk.isFile_eq_error.mpr ⟨f, hrefuses, rfl⟩)

theorem resolve_ends (hregular : ∀ p ∈ files d c, Regular d p) : Ends d c (resolve d c) := by
  have hproject : Regular d (projectFile d) := hregular _ projectFile_mem_files
  have hrefused (h : Refused d c) : Ends d c (resolve d c) := by
    obtain ⟨cause, hcause⟩ := resolve_of_refused hregular h
    rw [hcause]
    exact .refused h
  have hgiven (path : Option FilePath) (s : Settings) (hpath : Chosen d c path)
      (hs : Given d path s) : Ends d c (resolve d c) := by
    rw [resolve_of_given hproject hpath hs]
    by_cases hurl : HasUrl (merged c s)
    · rw [finished_of_hasUrl hurl]
      exact .resolved hpath hs hurl
    · rw [finished_of_no_url hurl]
      exact .urlMissing hpath hs hurl
  have hunsearched {p : FilePath} {e : Fault} (hsought : Sought d c p)
      (hfile : d.isFile p = .error e) : Ends d c (resolve d c) := by
    obtain ⟨f, hunsearched, rfl⟩ := hsought.unsearched hfile
    rw [resolve_of_unsearched hunsearched]
    exact .unsearched hunsearched
  rcases search_ends hproject with ⟨path, hpath⟩ | hunparsable | ⟨p, hsought, e, hfile⟩
  · cases path with
    | none => exact hgiven none default hpath rfl
    | some p =>
      cases hfile : d.isFile p with
      | error e => exact hunsearched hpath.sought hfile
      | ok found =>
        by_cases hholds : ∃ s, Holds d p s
        · obtain ⟨s, hs⟩ := hholds
          exact hgiven (some p) s hpath hs
        · exact hrefused (Or.inr ⟨p, hpath, ⟨found, hfile⟩, not_exists.mp hholds⟩)
  · exact hrefused (Or.inl hunparsable)
  · exact hunsearched hsought hfile

theorem ends_of_resolve (hregular : ∀ p ∈ files d c, Regular d p)
    {x : Except Fault (Settings × Option FilePath)} (hx : resolve d c = x) : Ends d c x := by
  rw [← hx]
  exact resolve_ends hregular

/-- Which file, which settings and which templates a run has. -/
structure Precedence (d : Disk) (c : Choice) : Prop where
  resolved : ∀ s path, resolve d c = .ok (s, path) ↔
    ∃ given, Chosen d c path ∧ Given d path given ∧ s = merged c given ∧ HasUrl s
  urlMissing : resolve d c = .error .urlMissing ↔
    ∃ path given, Chosen d c path ∧ Given d path given ∧ ¬ HasUrl (merged c given)
  refused : (∃ cause, resolve d c = .error (.config cause)) ↔
    Unparsable d c ∨ ∃ p, Chosen d c (some p) ∧ Unusable d p
  unsearched : ∀ f, resolve d c = .error (.system f) ↔ Unsearched d c f
  ends : Ends d c (resolve d c)
  templates : ∀ s path, resolve d c = .ok (s, path) → ∀ homes packaged texts,
    templateTexts d homes (path.map FilePath.parent) packaged s.templates = .ok texts ↔
      ∀ slot, SlotText d homes (templateDir path) (packaged.get slot) (s.templates.get slot)
        (texts.get slot)

def projectTree : FileTree :=
  (FileTree.empty ["work"]).put ["work", "pyproject.toml"] (.file (Text.encode
    ("[tool.specgen]\nurl = \"a.json\"\ndir = \"api\"\n" ++
      "moduleTemplate = \x7b header = \"file:h.j2\" \x7d\n").toList))

def longName : String := String.ofList (List.replicate 256 'a')

theorem toList_longName : longName.toList = List.replicate 256 'a' := String.toList_ofList

theorem longName_ne {s : String} (h : s.toList.length ≠ 256) : longName ≠ s := by
  rintro rfl
  rw [toList_longName, List.length_replicate] at h
  exact h rfl

def longChoice : Choice := ⟨some "doc.json", some "api", some longName⟩

theorem named_longChoice : longChoice.named? = some ⟨0, [longName]⟩ := by
  have hempty : longName ≠ "" := longName_ne (by decide)
  have hname : FilePath.isName longName = true := by
    rw [FilePath.isName_eq_true, toList_longName]
    exact ⟨hempty, longName_ne (by decide), by decide⟩
  simp [Choice.named?, longChoice, hempty, FilePath.ofString_name hname]

/-- The system does not take the long name, whatever is asked about it. -/
theorem nodeAt_longName :
    (FileTree.empty ["work"]).nodeAt ⟨0, [longName]⟩ = .error .nameTooLong := by
  have hone : (Text.encodeChar 'a').length = 1 := by decide
  have hcount : FileTree.octetCount longName = 256 * 1 := by
    rw [← hone]
    exact FileTree.octetCount_replicate 256 'a'
  exact FileTree.nodeAt_of_long_name (by rw [hcount]; decide) rfl

theorem null_longName : FilePath.holdsNull ⟨0, [longName]⟩ = false := by
  rw [FilePath.holdsNull_eq_false]
  simp only [List.forall_mem_singleton, toList_longName]
  decide

end ClientCompiler.Settings
