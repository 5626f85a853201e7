import ClientCompiler.Command.Run
import ClientCompiler.Proofs.Emission.Faults
import ClientCompiler.Proofs.Emission.Manifest

/-!
What the runs of the commands do to the files. A run that ends for want of the document has written
nothing, because the document is read and compiled before the first call of an emission, and an
emission does not fail for want of it. A run that ends well has written every file of the client, and
an inspection writes none.
-/

namespace ClientCompiler

open Emission FileAction

/-! ## Notices -/

theorem Console.late_closeStyle (name : List Char) (opened : List String) :
    Late (closeStyle name opened) := by
  unfold closeStyle
  split
  · split
    · exact .error rfl
    · exact .ok _
  · dsimp only
    split
    · exact .ok _
    · exact .error rfl

theorem Console.late_piecesText (ps : List MarkupPiece) :
    ∀ opened : List String, Late (piecesText opened ps) := by
  induction ps with
  | nil => exact fun _ => .ok []
  | cons p ps ih =>
    intro opened
    cases p with
    | text s => exact (ih opened).map _
    | tag name =>
      unfold piecesText
      split
      · exact (late_closeStyle _ opened).bind ih
      · exact ih _

theorem Printer.late_notice (p : Printer) (kind : Notice) (message : String) :
    Late (p.notice kind message) := by
  have hplain : Late (Console.plainText (styledNotice kind message).toList) := by
    unfold Console.plainText
    split
    · exact Console.late_piecesText _ []
    · exact .ok _
  unfold notice
  split
  · exact .ok _
  · split
    · exact .ok _
    · exact hplain.map _

namespace Command

variable {w : World} {p : Printer} {e : Fault} {t t' : FileTree}

theorem late_notices {ms : List (Notice × String)} (h : (notices p ms).2 = some e) :
    e.ofDocument = false := by
  induction ms with
  | nil => cases h
  | cons m ms ih =>
    unfold notices at h
    split at h
    · next f hf =>
      obtain rfl := Option.some.inj h
      exact p.late_notice m.1 m.2 f hf
    · exact ih h

/-! ## Ends of runs -/

theorem exitCode_of_class {c : FaultClass} (hclass : e.class? = some c)
    (he : e.ofDocument = false) : c.exitCode = 1 := by
  cases e with
  | urlMissing => cases he
  | retrieval cause => cases he
  | config cause =>
    obtain rfl := Option.some.inj hclass
    rfl
  | format message =>
    obtain rfl := Option.some.inj hclass
    rfl
  | _ => cases (hclass : none = some c)

/-- A fault of anything but obtaining the document has neither exit code 2 nor 7. -/
theorem exitCode_report (p : Printer) (he : e.ofDocument = false) :
    (report p e).2 = 1 ∨ (report p e).2 = interruptedExitCode := by
  unfold report
  dsimp only
  split
  · exact Or.inr rfl
  · split
    · next c s hclass _ => exact Or.inl (exitCode_of_class hclass he)
    · exact Or.inl rfl

theorem exitCode_report_ne_zero (p : Printer) (e : Fault) : (report p e).2 ≠ 0 := by
  have hcode (c : FaultClass) : c.exitCode ≠ 0 := by cases c <;> decide
  unfold report
  dsimp only
  split
  · exact Nat.succ_ne_zero _
  · split
    · exact hcode _
    · exact Nat.succ_ne_zero _

/-- A run that ends with exit code 2 or 7 has left the files `t` as they were. -/
def Harmless (t : FileTree) (r : RunOutcome) : Prop :=
  r.exitCode = 2 ∨ r.exitCode = 7 → r.files = t

theorem harmless_failed {err : List Char} (h : e.ofDocument = true → t' = t) :
    Harmless t (failed p err e t') := by
  intro hcode
  by_cases he : e.ofDocument = true
  · exact h he
  · have hreport := exitCode_report p (Bool.eq_false_iff.mpr he)
    change (report p e).2 = 2 ∨ (report p e).2 = 7 at hcode
    rw [interruptedExitCode] at hreport
    omega

/-- The files are written before the last notices, which fail for other reasons. -/
theorem harmless_finished {err : List Char} {last : List (Notice × String)} :
    Harmless t (finished p err last t') := by
  unfold finished
  split
  · intro hcode
    rcases hcode with hcode | hcode <;> cases hcode
  · next s e hnotices =>
    have hfault : (notices p last).2 = some e := by rw [hnotices]
    have he := late_notices hfault
    apply harmless_failed
    rw [he]
    nofun

theorem files_finished (p : Printer) (err : List Char) (last : List (Notice × String))
    (t : FileTree) : (finished p err last t).files = t := by
  unfold finished
  split <;> rfl

/-! ## Generation -/

section Generation

variable {s : Settings} {templates : Slots String} {client : Client} {ps : List FilePath}
  {c : Settings.Choice}

abbrev emitted (w : World) (s : Settings) (templates : Slots String) (client : Client) :
    FileAction (List FilePath) :=
  emit (Render.renderer w.chance) ⟨w.prettier.formatter, Formatter.json⟩ templates (.ofString s.dir)
    client

theorem outcome_build (w : World) (s : Settings) (templates : Slots String) (t : FileTree) :
    outcome (build w s templates) t =
      match (compileAt w (placeOf s)).result with
      | .error e => (.error e, t)
      | .ok client =>
        ((outcome (emitted w s templates client) t).1.map (client, ·),
          (outcome (emitted w s templates client) t).2) := by
  simp only [build, bind_eq]
  rw [outcome_bind, outcome_lift]
  cases (compileAt w (placeOf s)).result with
  | error e => rfl
  | ok client =>
    dsimp only
    rw [outcome_bind]
    generalize outcome (emitted w s templates client) t = o
    obtain ⟨r, t'⟩ := o
    cases r <;> rfl

/-- A build fails for want of the document only before it writes. -/
theorem files_of_build (h : outcome (build w s templates) t = (.error e, t'))
    (he : e.ofDocument = true) : t' = t := by
  rw [outcome_build] at h
  cases hclient : (compileAt w (placeOf s)).result with
  | error f =>
    rw [hclient] at h
    exact (Prod.mk.inj h).2.symm
  | ok client =>
    rw [hclient] at h
    have hemit := Emission.late_emit w.chance w.prettier templates (.ofString s.dir) client t
    have hlate : e.ofDocument = false := hemit.map (client, ·) e (Prod.mk.inj h).1
    rw [he] at hlate
    cases hlate

theorem build_eq_ok :
    outcome (build w s templates) t = (.ok (client, ps), t') ↔
      (compileAt w (placeOf s)).result = .ok client ∧
        outcome (emitted w s templates client) t = (.ok ps, t') := by
  rw [outcome_build]
  constructor
  · intro h
    cases hclient : (compileAt w (placeOf s)).result with
    | error f =>
      rw [hclient] at h
      cases (Prod.mk.inj h).1
    | ok found =>
      rw [hclient] at h
      obtain ⟨hresult, htree⟩ := Prod.mk.inj h
      obtain ⟨found', hemit, heq⟩ := map_eq_ok.mp hresult
      obtain ⟨rfl, rfl⟩ := Prod.mk.inj heq
      exact ⟨rfl, Prod.ext hemit htree⟩
  · rintro ⟨hclient, hemit⟩
    rw [hclient]
    dsimp only
    rw [hemit]
    rfl

theorem harmless_generate (w : World) (p : Printer) (c : Settings.Choice) :
    Harmless w.files (runGenerate w p c) := by
  unfold runGenerate
  split
  · exact harmless_failed fun _ => rfl
  · next s templates _ =>
    split
    · exact harmless_failed fun _ => rfl
    · dsimp only
      split
      -- Only here may something be written already: the fault is then none of the document.
      · next e he => exact harmless_failed (files_of_build (Prod.ext he rfl))
      · exact harmless_finished

/-- What a run of generation that ends well has done: it wrote the client of the document below the
directory of the settings, and each file of the client is there. -/
structure Generated (w : World) (c : Settings.Choice) (s : Settings) (templates : Slots String)
    (client : Client) (t : FileTree) : Prop where
  prepared : prepare w c = .ok (s, templates)
  compiled : (compileAt w (placeOf s)).result = .ok client
  emitted : outcome (emitted w s templates client) w.files =
    (.ok (Emission.paths (.ofString s.dir) client), t)
  written : ∀ path ∈ Emission.paths (.ofString s.dir) client, t.isFile path = .ok true

theorem generated_of_exitCode {r : RunOutcome} (hrun : runGenerate w p c = r)
    (hcode : r.exitCode = 0) : ∃ s templates client, Generated w c s templates client r.files := by
  have hfailed {err : List Char} {e : Fault} {t : FileTree} (h : failed p err e t = r) : False := by
    rw [← h] at hcode
    exact exitCode_report_ne_zero p e hcode
  unfold runGenerate at hrun
  split at hrun
  · exact (hfailed hrun).elim
  · next s templates hprepared =>
    split at hrun
    · exact (hfailed hrun).elim
    · dsimp only at hrun
      split at hrun
      · exact (hfailed hrun).elim
      · next client ps hresult =>
        obtain ⟨hcompiled, hemit⟩ := build_eq_ok.mp (Prod.ext hresult rfl)
        obtain ⟨rfl, k, base, t₀, hk, hpublished⟩ := Emission.published_of_emit hemit
        rw [← hrun, files_finished]
        refine ⟨s, templates, client, hprepared, hcompiled, hemit, ?_⟩
        intro path hpath
        rw [Emission.paths_eq] at hpath
        obtain ⟨way, hway, rfl⟩ := List.mem_map.mp hpath
        obtain ⟨octets, hoctets⟩ := Emission.lookup_of_mem_ways hk hway
        exact (hpublished.read hoctets).2

theorem notices_of_noColor (hp : p.noColor = true) (ms : List (Notice × String)) :
    (notices p ms).2 = none := by
  induction ms with
  | nil => rfl
  | cons m ms ih =>
    unfold notices
    split
    · next f hf =>
      unfold Printer.notice at hf
      rw [if_pos hp] at hf
      split at hf <;> cases hf
    · exact ih

theorem exitCode_of_build (hp : p.noColor = true) (hprepared : prepare w c = .ok (s, templates))
    (hbuild : outcome (build w s templates) w.files = (.ok (client, ps), t)) :
    (runGenerate w p c).exitCode = 0 := by
  obtain ⟨log, hbuild⟩ := outcome_eq_ok.mp hbuild
  have hnotice (kind : Notice) (message : String) : ∃ text, p.notice kind message = .ok text := by
    unfold Printer.notice
    rw [if_pos hp]
    split <;> exact ⟨_, rfl⟩
  obtain ⟨start, hstart⟩ := hnotice .info s!"{versionText} start fetching {placeOf s}..."
  unfold runGenerate
  rw [hprepared]
  dsimp only
  rw [hstart, hbuild]
  dsimp only
  unfold finished
  split
  · rfl
  · next said e hnotices =>
    have hnone := notices_of_noColor hp (writtenNotices s client ps)
    rw [hnotices] at hnone
    cases hnone

end Generation

/-! ## Inspection -/

theorem files_inspect (w : World) (p : Printer) (c : Settings.Choice)
    (table? : Client → Option Table) (nothing : String) :
    (runInspect w p c table? nothing).files = w.files := by
  unfold runInspect
  split
  · rfl
  · dsimp only
    split
    · rfl
    · split
      · exact files_finished p _ _ _
      · split <;> rfl

theorem run_generate {o : PrinterOptions} (hp : Printer.ofOptions w.surroundings o = .ok p)
    (c : Settings.Choice) : run w o (.generate c) = runGenerate w p c := by
  unfold run
  rw [hp]

/-- A generation that ends with exit code 2 or 7 leaves all files as they are, one that ends with 0
has written the client of its document, and an inspection leaves all files as they are. -/
theorem effects_of_run (w : World) (o : PrinterOptions) (c : Settings.Choice) :
    let r := run w o (.generate c)
    (r.exitCode = 2 ∨ r.exitCode = 7 → r.files = w.files) ∧
      (r.exitCode = 0 → ∃ s templates client, Generated w c s templates client r.files) ∧
      (run w o (.inspectModels c)).files = w.files ∧
      (run w o (.inspectModules c)).files = w.files := by
  intro r
  cases hp : Printer.ofOptions w.surroundings o with
  | error e =>
    have hrun (command : Command) : run w o command = ⟨unforeseenExitCode, [], [], w.files⟩ := by
      unfold run
      rw [hp]
    have hr : r = _ := hrun (.generate c)
    rw [hr, hrun, hrun]
    exact ⟨fun _ => rfl, nofun, rfl, rfl⟩
  | ok p =>
    have hr : r = runGenerate w p c := run_generate hp c
    unfold run
    rw [hp, hr]
    exact ⟨harmless_generate w p c, generated_of_exitCode rfl, files_inspect w p c _ _,
      files_inspect w p c _ _⟩

/-- Without an address, with a file that is not there, and with a document on standard input. -/
theorem effects_of_run_pets :
    let settings :=
      "\x7b\"moduleTemplate\": \x7b\"header\": \"\", \"body\": \"\", \"wrapper\": \"\"\x7d\x7d"
    let document := "\x7b\"swagger\": \"2.0\", \"definitions\": \x7b\"Pet\": \x7b\x7d\x7d, " ++
      "\"paths\": \x7b\"/pets\": \x7b\"get\": \x7b\"tags\": [\"pets\"]\x7d\x7d\x7d\x7d"
    let t := (FileTree.empty ["work"]).put ["work", "specgen.json"]
      (.file (Text.encode settings.toList))
    let w : World := ⟨t, .none, .text document.toList, fun _ => .failed "", .constant 0, .absent,
      ⟨none, none, none, none, false⟩⟩
    let o : PrinterOptions := ⟨.auto, true, false, false⟩
    ((run w o (.generate ⟨none, none, none⟩)).exitCode = 2 ∧
        (run w o (.generate ⟨none, none, none⟩)).files = w.files) ∧
      ((run w o (.generate ⟨some "doc.json", none, none⟩)).exitCode = 7 ∧
        (run w o (.generate ⟨some "doc.json", none, none⟩)).files = w.files) ∧
      (run w o (.generate ⟨some "-", some "api", none⟩)).exitCode = 0 ∧
        ∃ s templates client, Generated w ⟨some "-", some "api", none⟩ s templates client
          (run w o (.generate ⟨some "-", some "api", none⟩)).files := by
  intro settings document t w o
  have husage : (run w o (.generate ⟨none, none, none⟩)).exitCode = 2 := by decide +kernel
  have hretrieval : (run w o (.generate ⟨some "doc.json", none, none⟩)).exitCode = 7 := by
    decide +kernel
  have hprepared : prepare w ⟨some "-", some "api", none⟩ =
      .ok (⟨some "-", "api", ⟨some "", some "", none, some ""⟩⟩, ⟨"", "", "", ""⟩) := by
    decide +kernel
  have hcompiled : ((compileAt w "-").result.toOption.map fun c =>
      (c.models, c.modules, (Value.map c.source).isPlain)) = some ([⟨"Pet", none, [], []⟩],
        [⟨"pets", none, [⟨"getPets", .get, "/pets", none, "", []⟩], []⟩], true) := by
    decide +kernel
  obtain ⟨client, hclient, hparts⟩ := Option.map_eq_some_iff.mp hcompiled
  obtain ⟨hmodels, hmodules, hplain⟩ : client.models = _ ∧ client.modules = _ ∧ _ = true := by
    simpa using hparts
  have hfree : t.Free (.ofString "api") := by
    refine ⟨⟨["work", "api"], by decide +kernel, ?_⟩, by decide +kernel⟩
    intro way
    have hempty : (FileTree.empty ["work"]).find? (["work", "api"] ++ way) = none := by
      simp [FileTree.find?, FileTree.empty, List.lookup_cons]
    rw [FileTree.find?_put (by decide), if_neg (by simp), hempty]
  obtain ⟨types, htypes⟩ : ∃ types, Render.typesText (.constant 0) client.models >>=
      settled Prettier.absent.formatter = .ok types := by
    rw [hmodels]
    exact ⟨_, bind_eq_ok.mpr ⟨_, typesText_pet _, rfl⟩⟩
  have htexts : (Render.renderer (.constant 0)).modules ⟨"", "", "", ""⟩ >>= (fun render =>
      client.modules.mapM (moduleContent ⟨Prettier.absent.formatter, Formatter.json⟩ render)) =
        .ok [("pets.ts", [])] := by
    rw [hmodules]
    decide +kernel
  have hfits : Draft.Fits "pets.ts" := ⟨by decide, by decide, by decide⟩
  obtain ⟨t', hemit⟩ := emit_of_code (r := Render.renderer (.constant 0)) htypes htexts hplain
    (by simpa using hfits) hfree
  have hgenerated : (run w o (.generate ⟨some "-", some "api", none⟩)).exitCode = 0 := by
    rw [run_generate rfl]
    exact exitCode_of_build rfl hprepared (build_eq_ok.mpr
      ⟨toOption_eq_some.mp hclient, hemit⟩)
  refine ⟨⟨husage, ?_⟩, ⟨hretrieval, ?_⟩, hgenerated, ?_⟩
  · exact (effects_of_run w o ⟨none, none, none⟩).1 (Or.inl husage)
  · exact (effects_of_run w o ⟨some "doc.json", none, none⟩).1 (Or.inr hretrieval)
  · exact (effects_of_run w o ⟨some "-", some "api", none⟩).2.1 hgenerated

end Command
end ClientCompiler
