import ClientCompiler.Proofs.Emission.Manifest
import ClientCompiler.Proofs.Emission.ModuleNames
import ClientCompiler.Proofs.Files.Repetition
import ClientCompiler.Proofs.Files.Ways

/-!
An emission keeps to its own files. Whatever the modules are called, it writes four kinds of files
below its directory, makes directories on the way there, and changes nothing else; and when it is
done again, nothing changes at all.
-/

namespace ClientCompiler

open FileTree FileAction

namespace Emission

variable {r : Renderer} {f : Formatters} {texts : Slots String} {c : Client} {k : Contents}
  {out : FilePath} {t t' v : FileTree} {ps : List FilePath}

/-! ## A second emission -/

theorem repeatable_rest (hfinal : ∀ m ∈ k.modules, m.1.toList.getLast? ≠ some 'p')
    (out : FilePath) : Repeatable (modulesDir out)
      ((FileAction.each (fun m => FileAction.write ((modulesDir out).child m.1) m.2) k.modules).bind
        fun _ => (FileAction.write (manifestPath out) k.manifest).bind
          fun _ => FileAction.write (docsPath out) k.docs) := by
  have hmodules := repeatable_each fun m hm => repeatable_write (modulesDir out) (hfinal m hm) m.2
  have hmanifest := repeatable_write out finalName_manifest.final k.manifest
  have hdocs := repeatable_write out finalName_docs.final k.docs
  exact hmodules.bind fun _ => (hmanifest.below "modules").bind fun _ => hdocs.below "modules"

theorem publish_again (hfinal : ∀ m ∈ k.modules, m.1.toList.getLast? ≠ some 'p')
    (h : outcome (publish out k) t = (.ok (), t')) :
    ∃ t'', outcome (publish out k) t' = (.ok (), t'') := by
  unfold publish at h ⊢
  simp only [bind_eq] at h ⊢
  obtain ⟨_, t₀, hout, h⟩ := outcome_bind_eq_ok.mp h
  obtain ⟨_, t₁, htypes, h⟩ := outcome_bind_eq_ok.mp h
  obtain ⟨_, t₂, hdir, hrest⟩ := outcome_bind_eq_ok.mp h
  obtain ⟨base, hroot⟩ := makeDirs_returned hout
  have hwrite := repeatable_write out finalName_types.final k.types
  have hlater₁ := hwrite.later hroot htypes
  have hroot₁ := hroot.kept hlater₁.keeps
  have hlater₂ := later_makeDirs_child hroot₁ (by decide) hdir
  obtain ⟨below, hbelow⟩ := makeDirs_returned hdir
  have hrepeat := repeatable_rest hfinal out
  have hlater₃ := hrepeat.later hbelow hrest
  -- Each call is made again in a tree that is later than the one it left the first time.
  have hagain₀ := makeDirs_again hout ((hlater₁.trans hlater₂).trans hlater₃)
  obtain ⟨v₁, hagain₁⟩ := hwrite.again hroot htypes (hlater₂.trans hlater₃)
  have hroot' := (hroot₁.kept hlater₂.keeps).kept hlater₃.keeps
  have hv₁ := hwrite.later hroot' hagain₁
  have hagain₂ := makeDirs_again hdir (hlater₃.trans hv₁)
  obtain ⟨v₂, hagain₃⟩ := hrepeat.again hbelow hrest hv₁
  refine ⟨v₂, outcome_bind_eq_ok.mpr ⟨_, _, hagain₀, ?_⟩⟩
  refine outcome_bind_eq_ok.mpr ⟨_, _, hagain₁, ?_⟩
  exact outcome_bind_eq_ok.mpr ⟨_, _, hagain₂, hagain₃⟩

theorem Published.same {base : List String} {t₀ t'' : FileTree} (h : Published out k base t₀ t')
    (h' : Published out k base t' t'') (place : List String) :
    t''.find? place = t'.find? place := by
  rw [h'.puts.nodes, h.puts.nodes]
  cases List.lookup place (k.nodes.map fun w => (base ++ w.1, w.2)).reverse <;> rfl

/-! ## The files of a client -/

/-- The ways from a directory to what may be written below it. A TypeScript file is right below the
directory for modules: its name has no slash and is no dots. -/
inductive ClientFile : List String → Prop
  | types : ClientFile ["types.ts"]
  | manifest : ClientFile ["manifest.json"]
  | docs : ClientFile ["docs.json"]
  | module {stem : String} (hslash : '/' ∉ stem.toList) (hne : stem ≠ "") :
      ClientFile ["modules", stem ++ ".ts"]

theorem clientFile_of_mem_ways {way : List String} (h : way ∈ ways c) : ClientFile way := by
  simp only [ways, List.cons_append, List.mem_cons, List.mem_append, List.mem_map,
    List.not_mem_nil, or_false] at h
  rcases h with rfl | ⟨m, -, rfl⟩ | rfl | rfl
  · exact .types
  · have hsafe := FileName.safe_ofModule m.name
    exact .module (hsafe.signs '/' (by decide)) hsafe.nonempty
  · exact .manifest
  · exact .docs

theorem ClientFile.final {way : List String} (h : ClientFile way) (base dir : List String)
    (name tag : String) : base ++ way ≠ dir ++ [Draft.nameFor name tag] := by
  have hts (stem : String) : (stem ++ ".ts").toList.getLast? = some 's' := by
    have hend : ".ts".toList = ".t".toList ++ ['s'] := by decide
    rw [String.toList_append, hend, ← List.append_assoc, List.getLast?_concat]
  have hlast : ∃ up file, way = up ++ [file] ∧ file.toList.getLast? ≠ some 'p' := by
    cases h with
    | types => exact ⟨[], _, rfl, by decide⟩
    | manifest => exact ⟨[], _, rfl, by decide⟩
    | docs => exact ⟨[], _, rfl, by decide⟩
    | @module stem _ _ => exact ⟨["modules"], _, rfl, by rw [hts]; decide⟩
  obtain ⟨up, file, rfl, hfile⟩ := hlast
  intro heq
  rw [← List.append_assoc] at heq
  have hname := List.singleton_inj.mp (List.append_inj' heq rfl).2
  exact hfile (hname ▸ Draft.getLast?_nameFor name tag)

/-- What an emission that has led from the tree `t` to the tree `t'` has done. Its directory is in
the place `base`. -/
structure Confined (emission : FileAction (List FilePath)) (out : FilePath) (c : Client)
    (t t' : FileTree) (base : List String) (ps : List FilePath) : Prop where
  returned : ps = (ways c).map out.below
  root : t'.DirectoryAt out base
  files : ∀ way ∈ ways c, ClientFile way ∧ t'.locate (out.below way) = .ok (base ++ way) ∧
    ∃ octets, t'.find? (base ++ way) = some (.file octets)
  kept : KeepsDirectories t t'
  changed : ∀ place, t'.find? place ≠ t.find? place →
    (∃ way ∈ ways c, place = base ++ way) ∨
      t.find? place = none ∧ t'.find? place = some .directory ∧
        ∃ q : FilePath, q.Above (modulesDir out) ∧ t'.locate q = .ok place
  drafts : ∀ dir name tag octets, t'.find? (dir ++ [Draft.nameFor name tag]) = some (.file octets) →
    t.find? (dir ++ [Draft.nameFor name tag]) = some (.file octets)
  again : ∃ log t'', emission t' = (⟨.ok ps, log⟩, t'') ∧ t''.workDir = t'.workDir ∧
    ∀ place, t''.find? place = t'.find? place

variable {base : List String} {t₀ : FileTree}

theorem Published.changed (hk : contents r f texts c = .ok k)
    (hout : outcome (FileAction.makeDirs out) t = (.ok (), t₀)) (h : Published out k base t₀ t')
    {place : List String} (hplace : t'.find? place ≠ t.find? place) :
    (∃ way ∈ ways c, place = base ++ way) ∨
      t.find? place = none ∧ t'.find? place = some .directory ∧
        ∃ q : FilePath, q.Above (modulesDir out) ∧ t'.locate q = .ok place := by
  have hmade : MadeWay out t t₀ := madeWay_makeDirs hout
  have hup := FilePath.above_child out "modules"
  have hfound := h.puts.nodes place
  cases hlookup : List.lookup place (k.nodes.map fun w => (base ++ w.1, w.2)).reverse with
  | none =>
    rw [hlookup, Option.none_or] at hfound
    rw [hfound] at hplace
    obtain ⟨hnew, hdirectory, q, hq, hlocated⟩ := hmade.made place hplace
    exact Or.inr ⟨hnew, hfound.trans hdirectory, q, hq.trans hup, h.puts.keeps.locate hlocated⟩
  | some n =>
    rw [hlookup, Option.some_or] at hfound
    obtain ⟨before, after, hnodes, -⟩ := List.lookup_eq_some_iff.mp hlookup
    have hmem : (place, n) ∈ k.nodes.map fun w => (base ++ w.1, w.2) := by
      rw [← List.mem_reverse, hnodes]
      simp
    obtain ⟨⟨way, _⟩, hway, heq⟩ := List.mem_map.mp hmem
    obtain ⟨rfl, rfl⟩ := Prod.mk.inj heq
    by_cases hmodules : way = ["modules"]
    · subst hmodules
      refine Or.inr ?_
      have hdirectory := h.modules.found
      refine ⟨?_, hdirectory, _, FilePath.above_rfl _, h.modules.located⟩
      -- A directory that was there before would not have changed.
      by_cases hsame : t₀.find? (base ++ ["modules"]) = t.find? (base ++ ["modules"])
      · rcases h.vacant with hvacant | hthere
        · rw [← hsame, hvacant]
        · rw [hdirectory, ← hsame, hthere] at hplace
          exact absurd rfl hplace
      · exact (hmade.made _ hsame).1
    · have hways := List.mem_map_of_mem (f := Prod.fst) hway
      rw [ways_of_contents hk] at hways
      refine Or.inl ⟨way, ?_, rfl⟩
      simp only [ways, List.cons_append, List.mem_cons] at hways ⊢
      rcases hways with rfl | hways | hways
      · exact Or.inl rfl
      · exact absurd hways hmodules
      · exact Or.inr hways

/-- The structure is filled from what the calls have left; no part of it asks what the files hold. -/
theorem confined_of_publish (hk : contents r f texts c = .ok k)
    (h : outcome (publish out k) t = (.ok (), t')) :
    ∃ base, ∀ r', r'.modules texts = r.modules texts →
      Confined (emit r' f texts out c) out c t t' base (paths out c) := by
  obtain ⟨base, t₀, hout, hpublished⟩ := publish_returned h
  have hmade : MadeWay out t t₀ := madeWay_makeDirs hout
  have hchanged (place : List String) (hplace : t'.find? place ≠ t.find? place) :=
    hpublished.changed hk hout hplace
  refine ⟨base, fun r' hsame => ⟨paths_eq out c, hpublished.root, ?_,
    hmade.keeps.trans hpublished.puts.keeps, hchanged, ?_, ?_⟩⟩
  · intro way hway
    obtain ⟨octets, hlookup⟩ := lookup_of_mem_ways hk hway
    refine ⟨clientFile_of_mem_ways hway, hpublished.locate (mem_nodes_of_lookup hlookup), octets, ?_⟩
    rw [hpublished.puts.find?, hlookup, Option.some_or]
  · intro dir name tag octets hdraft
    by_contra hne
    rcases hchanged _ (by rw [hdraft]; exact Ne.symm hne) with ⟨way, hway, heq⟩ | ⟨-, hdirectory, -⟩
    · exact (clientFile_of_mem_ways hway).final base dir name tag heq.symm
    · rw [hdraft] at hdirectory
      cases hdirectory
  · obtain ⟨t'', hagain⟩ := publish_again (final_of_contents hk) h
    obtain ⟨base', t₀', hout', hpublished'⟩ := publish_returned hagain
    -- The directory is there, so that the second emission starts where the first one has ended.
    have hout' : t'.makeDirs out = (.ok (), t₀') := hout'
    rw [makeDirs_of_directoryAt hpublished.root] at hout'
    obtain rfl := (Prod.mk.inj hout').2
    obtain rfl := hpublished'.root.unique (hpublished.root.kept hpublished'.puts.keeps)
    have hk' : contents r' f texts c = .ok k := (contents_of_modules hsame f c).trans hk
    have hemit : outcome (emit r' f texts out c) t' = (.ok (paths out c), t'') := by
      rw [same_emit hk' out t']
      exact outcome_bind_eq_ok.mpr ⟨(), t'', hagain, rfl⟩
    obtain ⟨log, hemit⟩ := outcome_eq_ok.mp hemit
    exact ⟨log, t'', hemit, hpublished'.puts.keeps.workDir, hpublished.same hpublished'⟩

end Emission

open Emission

variable {r : Renderer} {f : Formatters} {texts : Slots String} {c : Client} {out : FilePath}
  {t t' : FileTree} {ps : List FilePath} {log : List Diagnostic}

/-- Every file that an emission has written or changed is one of the client's, right below its
directory or the directory for modules. Nothing else is touched but for directories that were made
on the way, no draft stays, and a second emission, by any renderer that makes the same of the
modules, returns and changes nothing. The names of module files are safe for any text that a module
may be called. -/
theorem emit_confined (h : emit r f texts out c t = (⟨.ok ps, log⟩, t')) :
    (∀ name, FileName.Safe (FileName.ofModule name)) ∧
      ∃ base, ∀ r', r'.modules texts = r.modules texts →
        Confined (emit r' f texts out c) out c t t' base ps := by
  obtain ⟨rfl, k, hk, hpublish⟩ := publish_of_emit (outcome_eq_ok.mpr ⟨log, h⟩)
  exact ⟨FileName.safe_ofModule, confined_of_publish hk hpublish⟩

theorem emit_confined_outward :
    let modules : List ApiModule := [⟨"../../etc|x", none, [], []⟩, ⟨" ", none, [], []⟩]
    let c : Client := ⟨[⟨"Pet", none, [], []⟩], modules, []⟩
    let texts : Slots String := ⟨"", "", "", ""⟩
    let r := Render.renderer (.constant 0)
    let f : Formatters := ⟨Prettier.absent.formatter, Formatter.json⟩
    let out := FilePath.ofString "api"
    let t := (FileTree.empty ["work"]).put ["work", "notes.txt"] (.file [104])
    let run := emit r f texts out c t
    ways c = [["types.ts"], ["modules", ".._.._etc_x.ts"], ["modules", "default.ts"],
        ["manifest.json"], ["docs.json"]] ∧
      run.1.result = .ok (paths out c) ∧
      ∃ base, Confined (emit r f texts out c) out c t run.2 base (paths out c) := by
  intro modules c texts r f out t run
  have hfree : t.Free out := by
    refine ⟨⟨["work", "api"], by decide +kernel, ?_⟩, by decide +kernel⟩
    intro way
    simp [t, FileTree.find?, FileTree.put, FileTree.putNode, FileTree.empty, List.lookup_cons]
  have hmodules : r.modules texts >>= (fun render =>
      modules.mapM (moduleContent f render)) =
        .ok [(".._.._etc_x.ts", []), ("default.ts", [])] := by
    decide +kernel
  have htypes : Render.typesText r.chance c.models >>= settled Prettier.absent.formatter = .ok _ :=
    bind_eq_ok.mpr ⟨_, typesText_pet _, rfl⟩
  have hfits : Draft.Fits ".._.._etc_x.ts" ∧ Draft.Fits "default.ts" :=
    ⟨⟨by decide, by decide, by decide⟩, ⟨by decide, by decide, by decide⟩⟩
  obtain ⟨t', hemit⟩ := emit_of_code htypes hmodules (by decide) (by simpa using hfits) hfree
  obtain ⟨log, hemit⟩ := outcome_eq_ok.mp hemit
  have hrun : run = (⟨.ok (paths out c), log⟩, t') := hemit
  obtain ⟨-, base, hconfined⟩ := emit_confined hemit
  rw [hrun]
  exact ⟨by decide +kernel, rfl, base, hconfined r rfl⟩

end ClientCompiler
