import ClientCompiler.Proofs.Emission.Publishing

/-!
An emission into a directory where nothing is yet. No draft and no target is in the way of another,
so that every call returns whose names fit.
-/

namespace ClientCompiler

open FileTree FileAction

/-- Nothing is at a path or below it, the directory above is there, and two more names of any length
have room in the path. -/
structure FileTree.Free (t : FileTree) (p : FilePath) : Prop where
  clear : ∃ place, t.entryPlace p = .ok (some place) ∧ ∀ way, t.find? (place ++ way) = none
  room : octetCount p.text + 2 * (maxName + 1) < maxPath

/-- Below a directory there are no drafts, and no directories but the one for modules. -/
structure FileTree.Orderly (base : List String) (t : FileTree) : Prop where
  drafts : ∀ sub name, t.find? (base ++ sub ++ [Draft.nameFor name (Draft.tag 0)]) = none
  directories : ∀ way, way ≠ [] → way ≠ ["modules"] → t.find? (base ++ way) ≠ some .directory

section Calls

variable {base sub : List String} {t t' : FileTree} {p : FilePath} {name : String}

structure FinalName (name : String) : Prop where
  fits : Draft.Fits name
  final : name.toList.getLast? ≠ some 'p'

theorem FileTree.Orderly.puts (h : Orderly base t) (hfinal : name.toList.getLast? ≠ some 'p')
    (sub : List String) {n : FileNode} (hn : n = .directory → sub ++ [name] = ["modules"])
    (hputs : Puts base t t' [(sub ++ [name], n)]) : Orderly base t' := by
  constructor
  · intro sub' other
    have hdraft := h.drafts sub' other
    rw [List.append_assoc] at hdraft ⊢
    rw [hputs.find?_one, if_neg, hdraft]
    intro heq
    have hname := (List.append_inj' heq rfl).2
    rw [← List.singleton_inj.mp hname] at hfinal
    exact hfinal (Draft.getLast?_nameFor other _)
  · intro way hway hmodules
    rw [hputs.find?_one]
    split
    · next heq =>
      intro hdirectory
      exact hmodules (heq.trans (hn (Option.some.inj hdirectory)))
    · exact h.directories way hway hmodules

theorem write_of_orderly (horderly : Orderly base t) (hdir : t.DirectoryAt p (base ++ sub))
    (hroom : Draft.HasRoom p) (hname : FinalName name) (hmodules : sub ++ [name] ≠ ["modules"])
    (s : List Char) :
    ∃ t', outcome (FileAction.write (p.child name) s) t = (.ok (), t') ∧ Orderly base t' ∧
      Puts base t t' [(sub ++ [name], .file (Text.encode s))] := by
  have htarget := horderly.directories (sub ++ [name]) (by simp) hmodules
  rw [← List.append_assoc] at htarget
  obtain ⟨t', hstore⟩ := Draft.storeAt_of_fits hdir hroom hname.fits
    (horderly.drafts sub name) htarget (Text.encode s)
  have hwrite := outcome_eq_ok.mpr ⟨[], (write_eq_returned hdir).mpr ⟨rfl, hstore⟩⟩
  obtain ⟨hputs, -⟩ := write_puts hdir hwrite
  refine ⟨t', hwrite, horderly.puts hname.final sub ?_ hputs, hputs⟩
  nofun

theorem writes_of_orderly (hroom : Draft.HasRoom p) {ms : List (String × List Char)}
    (hnames : ∀ m ∈ ms, FinalName m.1) (hmodules : ∀ m ∈ ms, sub ++ [m.1] ≠ ["modules"]) :
    ∀ {t : FileTree}, Orderly base t → t.DirectoryAt p (base ++ sub) →
      ∃ rs t', outcome (FileAction.each (fun m => FileAction.write (p.child m.1) m.2) ms) t =
          (.ok rs, t') ∧ Orderly base t' ∧ KeepsDirectories t t' := by
  induction ms with
  | nil => exact fun horderly _ => ⟨[], _, rfl, horderly, rfl, fun _ => id⟩
  | cons m ms ih =>
    intro t horderly hdir
    obtain ⟨hname, hnames⟩ := List.forall_mem_cons.mp hnames
    obtain ⟨hmodule, hmodules⟩ := List.forall_mem_cons.mp hmodules
    obtain ⟨u, hwrite, horderly, hputs⟩ :=
      write_of_orderly horderly hdir hroom hname hmodule m.2
    obtain ⟨rs, t', hrest, horderly, hkeeps⟩ := ih hnames hmodules horderly (hdir.kept hputs.keeps)
    refine ⟨() :: rs, t', ?_, horderly, hputs.keeps.trans hkeeps⟩
    exact outcome_bind_eq_ok.mpr ⟨(), u, hwrite,
      outcome_bind_eq_ok.mpr ⟨rs, t', hrest, rfl⟩⟩

theorem makeDirs_returns (hentry : t.entryPlace p = .ok (some base))
    (hfree : t.find? base = none) :
    outcome (FileAction.makeDirs p) t = (.ok (), t.put base .directory) := by
  have hmade := makeDirs_of_free hentry hfree
  simp [outcome, FileAction.makeDirs, hmade]

theorem orderly_of_clear (hbase : base ≠ []) (hclear : ∀ way, t.find? (base ++ way) = none) :
    Orderly base (t.put base .directory) := by
  have hbelow (way : List String) (hway : way ≠ []) :
      (t.put base .directory).find? (base ++ way) = none := by
    rw [find?_put hbase, if_neg (by simpa using hway), hclear]
  constructor
  · intro sub name
    rw [List.append_assoc]
    exact hbelow _ (by simp)
  · intro way hway _
    rw [hbelow way hway]
    nofun

end Calls

namespace Emission

variable {out : FilePath} {k : Contents} {base : List String} {t : FileTree}

theorem finalName_types : FinalName "types.ts" := ⟨⟨by decide, by decide, by decide⟩, by decide⟩

theorem finalName_manifest : FinalName "manifest.json" :=
  ⟨⟨by decide, by decide, by decide⟩, by decide⟩

theorem finalName_docs : FinalName "docs.json" := ⟨⟨by decide, by decide, by decide⟩, by decide⟩

theorem publish_of_free (h : t.Free out) (hnames : ∀ m ∈ k.modules, FinalName m.1) :
    ∃ t', outcome (publish out k) t = (.ok (), t') := by
  obtain ⟨⟨base, hentry, hclear⟩, hroom⟩ := h
  have hbase := ne_nil_of_entryPlace hentry
  have hempty : t.find? base = none := by simpa using hclear []
  have hmade := keepsDirectories_put hbase (Or.inr rfl) (t := t) (n := .directory)
  have hroot : (t.put base .directory).DirectoryAt out (base ++ []) := by
    rw [List.append_nil]
    exact ⟨locate_of_entryPlace hentry hmade, by rw [find?_put hbase, if_pos rfl]⟩
  have hmodulesRoom : Draft.HasRoom out ∧ Draft.HasRoom (modulesDir out) := by
    have hmost := (octetCount_text_child out "modules").1
    have hcount : octetCount "modules" = 7 := by decide
    have hmax : maxName = 255 := rfl
    unfold Draft.HasRoom modulesDir
    omega
  obtain ⟨hroom, hroomBelow⟩ := hmodulesRoom
  obtain ⟨t₁, htypes, horderly, hputs₁⟩ := write_of_orderly (orderly_of_clear hbase hclear) hroot
    hroom finalName_types (by decide) k.types
  have hroot := hroot.kept hputs₁.keeps
  rw [List.append_nil] at hroot
  have hbelow : t₁.find? (base ++ ["modules"]) = none := by
    rw [hputs₁.find?_one, if_neg (by decide), find?_put hbase, if_neg (by simp), hclear]
  have hentryBelow : t₁.entryPlace (modulesDir out) = .ok (some (base ++ ["modules"])) :=
    hroot.entryPlace_child.mpr
      ⟨Draft.checkPath_of_room hroot.checked hroom (by decide) (by decide), by decide, by decide,
        rfl⟩
  have hdir := makeDirs_returns hentryBelow hbelow
  obtain ⟨hputs₂, hmodulesDir⟩ := makeDirs_puts hroot (by decide) hdir
  have hroot := hroot.kept hputs₂.keeps
  have horderly := horderly.puts (by decide) [] (fun _ => rfl) hputs₂
  obtain ⟨rs, t₃, hmodules, horderly, hkeeps₃⟩ :=
    writes_of_orderly hroomBelow hnames (by simp) horderly hmodulesDir
  have hroot := hroot.kept hkeeps₃
  rw [← List.append_nil base] at hroot
  obtain ⟨t₄, hmanifest, horderly, hputs₄⟩ :=
    write_of_orderly horderly hroot hroom finalName_manifest (by decide) k.manifest
  have hroot := hroot.kept hputs₄.keeps
  obtain ⟨t₅, hdocs, -, -⟩ :=
    write_of_orderly horderly hroot hroom finalName_docs (by decide) k.docs
  refine ⟨t₅, outcome_bind_eq_ok.mpr ⟨_, _, makeDirs_returns hentry hempty, ?_⟩⟩
  refine outcome_bind_eq_ok.mpr ⟨_, _, htypes, ?_⟩
  refine outcome_bind_eq_ok.mpr ⟨_, _, hdir, ?_⟩
  refine outcome_bind_eq_ok.mpr ⟨_, _, hmodules, ?_⟩
  exact outcome_bind_eq_ok.mpr ⟨_, _, hmanifest, hdocs⟩

variable {r : Renderer} {f : Formatters} {texts : Slots String} {c : Client}

theorem final_of_contents (h : contents r f texts c = .ok k) :
    ∀ m ∈ k.modules, m.1.toList.getLast? ≠ some 'p' := by
  intro m hm
  have hname : m.1 ∈ c.modules.map moduleFile := by
    rw [← names_of_contents h]
    exact List.mem_map_of_mem hm
  obtain ⟨apiModule, -, hname⟩ := List.mem_map.mp hname
  have hend : ".ts".toList = ".t".toList ++ ['s'] := by decide
  rw [← hname, moduleFile, String.toList_append, hend, ← List.append_assoc, List.getLast?_concat]
  decide

/-- An emission returns in a fresh directory once its texts are made and its names fit. -/
theorem emit_of_free (hk : contents r f texts c = .ok k) (hfits : ∀ m ∈ k.modules, Draft.Fits m.1)
    (hfree : t.Free out) : ∃ t', outcome (emit r f texts out c) t = (.ok (paths out c), t') := by
  have hnames : ∀ m ∈ k.modules, FinalName m.1 := fun m hm =>
    ⟨hfits m hm, final_of_contents hk m hm⟩
  obtain ⟨t', hpublish⟩ := publish_of_free hfree hnames
  refine ⟨t', ?_⟩
  rw [same_emit hk out t]
  exact outcome_bind_eq_ok.mpr ⟨(), t', hpublish, rfl⟩

end Emission
end ClientCompiler
