import ClientCompiler.Proofs.Emission.Manifest
import Mathlib.Data.List.Nodup

/-!
What is found in the files of modules. Modules with one file name are written to one file, one after
the other, so that the last of them is the one whose text stays.
-/

namespace ClientCompiler

open FileTree FileAction

namespace Emission

variable {r : Renderer} {f : Formatters} {texts : Slots String}
  {render : ApiModule → Except Fault (List Char)} {c : Client} {k : Contents} {out : FilePath}
  {t t' : FileTree} {ps : List FilePath} {base : List String}

def ownText (r : Renderer) (f : Formatters) (texts : Slots String) (m : ApiModule) :
    Except Fault (List Char) := do
  let render ← r.modules texts
  render m >>= settled f.code

def HoldsOwn (r : Renderer) (f : Formatters) (texts : Slots String) (out : FilePath) (t : FileTree)
    (m : ApiModule) : Prop :=
  ∃ s, ownText r f texts m = .ok s ∧ t.read (modulePath out m) = .ok (Text.encode s)

/-- Where the texts of the modules are after an emission that has returned the paths `ps`. -/
structure ModulesOnDisk (r : Renderer) (f : Formatters) (texts : Slots String) (out : FilePath)
    (c : Client) (t : FileTree) (ps : List FilePath) : Prop where
  returned : ps = paths out c
  last : ∀ before m after, c.modules = before ++ m :: after →
    (∀ m' ∈ after, moduleFile m' ≠ moduleFile m) → HoldsOwn r f texts out t m
  kept : (∀ m ∈ c.modules, HoldsOwn r f texts out t m) ↔
    ∀ m ∈ c.modules, ∀ m' ∈ c.modules, moduleFile m = moduleFile m' →
      ownText r f texts m = ownText r f texts m'
  distinct : ps.Nodup ↔ (c.modules.map moduleFile).Nodup

theorem moduleContent_eq_ok {m : ApiModule} {file : String × List Char} :
    moduleContent f render m = .ok file ↔
      ∃ s, render m >>= settled f.code = .ok s ∧ file = (moduleFile m, s) := by
  unfold moduleContent
  rw [bind_eq_ok]
  refine exists_congr fun s => and_congr_right fun _ => ?_
  rw [pure_eq_ok, eq_comm]

/-- The induction is on the modules before: what they have written is looked up last. -/
theorem lookup_last {ms before after : List ApiModule} {m : ApiModule}
    {ks : List (String × List Char)}
    (h : List.Forall₂ (fun m file => moduleContent f render m = .ok file) ms ks)
    (hsplit : ms = before ++ m :: after) (hlast : ∀ m' ∈ after, moduleFile m' ≠ moduleFile m) :
    ∃ s, render m >>= settled f.code = .ok s ∧
      (filesIn ["modules"] ks).reverse.lookup ["modules", moduleFile m] =
        some (.file (Text.encode s)) := by
  induction before generalizing ms ks with
  | nil =>
    obtain rfl : ms = m :: after := hsplit
    obtain ⟨file, ks, hm, hafter, rfl⟩ := List.forall₂_cons_left_iff.mp h
    obtain ⟨s, hs, rfl⟩ := moduleContent_eq_ok.mp hm
    refine ⟨s, hs, ?_⟩
    have hnone : (filesIn ["modules"] ks).reverse.lookup ["modules", moduleFile m] = none := by
      rw [List.lookup_eq_none_iff]
      intro node hnode
      obtain ⟨file, hfile, rfl⟩ := List.mem_map.mp (List.mem_reverse.mp hnode)
      obtain ⟨m', hm', hcontent⟩ := exists_of_forall₂_of_mem hafter hfile
      obtain ⟨_, -, rfl⟩ := moduleContent_eq_ok.mp hcontent
      simpa using (hlast m' hm').symm
    rw [filesIn, List.map_cons, List.reverse_cons, List.lookup_append]
    rw [filesIn] at hnone
    rw [hnone, Option.none_or]
    exact List.lookup_cons_self
  | cons m₀ before ih =>
    obtain rfl : ms = m₀ :: (before ++ m :: after) := hsplit
    obtain ⟨file, ks, -, hrest, rfl⟩ := List.forall₂_cons_left_iff.mp h
    obtain ⟨s, hs, hlookup⟩ := ih hrest rfl
    refine ⟨s, hs, ?_⟩
    rw [filesIn, List.map_cons, List.reverse_cons, List.lookup_append]
    rw [filesIn] at hlookup
    rw [hlookup, Option.some_or]

theorem exists_last {ms : List ApiModule} {m : ApiModule} (h : m ∈ ms) :
    ∃ before last after, ms = before ++ last :: after ∧ moduleFile last = moduleFile m ∧
      ∀ m' ∈ after, moduleFile m' ≠ moduleFile last := by
  induction ms generalizing m with
  | nil => cases h
  | cons m₀ ms ih =>
    by_cases hlater : ∃ m' ∈ ms, moduleFile m' = moduleFile m
    · obtain ⟨m', hm', hsame⟩ := hlater
      obtain ⟨before, last, after, rfl, hlast, hafter⟩ := ih hm'
      exact ⟨m₀ :: before, last, after, rfl, hlast.trans hsame, hafter⟩
    · have hnone : ∀ m' ∈ ms, moduleFile m' ≠ moduleFile m := by
        intro m' hm' hsame
        exact hlater ⟨m', hm', hsame⟩
      rcases List.mem_cons.mp h with rfl | h
      · exact ⟨[], m, ms, rfl, rfl, hnone⟩
      · exact absurd rfl (hnone m h)

/-- Files after the modules' own do not come into it: no module has one of their names. -/
theorem Contents.lookup_module {n : FileNode} {name : String}
    (h : (filesIn ["modules"] k.modules).reverse.lookup ["modules", name] = some n) :
    k.nodes.reverse.lookup ["modules", name] = some n := by
  have hother (file : String) (n : FileNode) : [([file], n)].lookup ["modules", name] = none := by
    simp [List.lookup_cons]
  simp only [Contents.nodes, List.reverse_append, List.reverse_singleton, List.lookup_append,
    hother, h, Option.none_or, Option.some_or]

theorem holdsOwn_last (hk : contents r f texts c = .ok k) (h : Published out k base t t')
    {before after : List ApiModule} {m : ApiModule} (hsplit : c.modules = before ++ m :: after)
    (hlast : ∀ m' ∈ after, moduleFile m' ≠ moduleFile m) : HoldsOwn r f texts out t' m := by
  obtain ⟨render, hrender, -, hmodules, -⟩ := contents_eq_ok.mp hk
  obtain ⟨s, hs, hlookup⟩ := lookup_last (mapM_eq_ok.mp hmodules) hsplit hlast
  have hread := (h.read (k.lookup_module hlookup)).1
  rw [← FilePath.child_child_eq_below] at hread
  exact ⟨s, bind_eq_ok.mpr ⟨render, hrender, hs⟩, hread⟩

theorem encode_inj {s s' : List Char} (h : Text.encode s = Text.encode s') : s = s' := by
  have hdecode := Text.decode?_encode s
  rw [h, Text.decode?_encode] at hdecode
  exact (Option.some.inj hdecode).symm

theorem below_inj (out : FilePath) : Function.Injective out.below := by
  intro way way' h
  exact List.append_cancel_left (congrArg FilePath.names h)

theorem nodup_paths (out : FilePath) (c : Client) :
    (paths out c).Nodup ↔ (c.modules.map moduleFile).Nodup := by
  have hmodules : c.modules.map (fun m => ["modules", moduleFile m]) =
      (c.modules.map moduleFile).map fun file => ["modules", file] := by
    rw [List.map_map]
    rfl
  have hinj : Function.Injective fun file : String => ["modules", file] := by
    intro file file' hfile
    simpa using hfile
  rw [paths_eq, List.nodup_map_iff (below_inj out), ways, hmodules]
  rw [← List.nodup_map_iff hinj (l := c.modules.map moduleFile)]
  simp [List.nodup_append]

theorem modulesOnDisk_of_published (hk : contents r f texts c = .ok k)
    (h : Published out k base t t') : ModulesOnDisk r f texts out c t' (paths out c) := by
  have hlast (m : ApiModule) (hm : m ∈ c.modules) :
      ∃ last ∈ c.modules, moduleFile last = moduleFile m ∧ HoldsOwn r f texts out t' last := by
    obtain ⟨before, last, after, hsplit, hsame, hafter⟩ := exists_last hm
    refine ⟨last, ?_, hsame, holdsOwn_last hk h hsplit hafter⟩
    rw [hsplit]
    simp
  have hpath (m m' : ApiModule) (hsame : moduleFile m = moduleFile m') :
      modulePath out m = modulePath out m' := congrArg (modulesDir out).child hsame
  refine ⟨rfl, fun _ _ _ => holdsOwn_last hk h, ⟨?_, ?_⟩, nodup_paths out c⟩
  · intro hkept m hm m' hm' hsame
    obtain ⟨s, hs, hread⟩ := hkept m hm
    obtain ⟨s', hs', hread'⟩ := hkept m' hm'
    rw [hpath m m' hsame, hread'] at hread
    rw [hs, hs', encode_inj (Except.ok.inj hread)]
  · intro hsame m hm
    obtain ⟨last, hmem, hfile, s, hs, hread⟩ := hlast m hm
    refine ⟨s, ?_, ?_⟩
    · rw [hsame m hm last hmem hfile.symm, hs]
    · rw [hpath m last hfile.symm, hread]

theorem emit_fresh {modules : List ApiModule} {files : List (String × List Char)}
    (hmodules : r.modules texts >>= (fun render => modules.mapM
      (moduleContent ⟨Prettier.absent.formatter, Formatter.json⟩ render)) = .ok files)
    (hfits : ∀ file ∈ files, Draft.Fits file.1) :
    let c : Client := ⟨[⟨"Pet", none, [], []⟩], modules, []⟩
    ∃ log t', emit r ⟨Prettier.absent.formatter, Formatter.json⟩ texts (.ofString "api") c
      (FileTree.empty ["work"]) = (⟨.ok (paths (.ofString "api") c), log⟩, t') := by
  intro c
  have htypes : Render.typesText r.chance c.models >>= settled Prettier.absent.formatter = .ok _ :=
    bind_eq_ok.mpr ⟨_, typesText_pet _, rfl⟩
  obtain ⟨t', hemit⟩ := emit_of_code htypes hmodules rfl hfits free_api
  obtain ⟨log, hemit⟩ := outcome_eq_ok.mp hemit
  exact ⟨log, t', hemit⟩

end Emission

open Emission

/-- After an emission the file of a module holds the module's own text if no later module has the
same file name. So all texts are found just when modules with one file name have one text, and the
returned paths are distinct just when the file names are. -/
theorem modules_on_disk {r : Renderer} {f : Formatters} {texts : Slots String} {c : Client}
    {out : FilePath} {t t' : FileTree} {ps : List FilePath} {log : List Diagnostic}
    (h : emit r f texts out c t = (⟨.ok ps, log⟩, t')) : ModulesOnDisk r f texts out c t' ps := by
  obtain ⟨rfl, k, base, t₀, hk, hpublished⟩ := published_of_emit (outcome_eq_ok.mpr ⟨log, h⟩)
  exact modulesOnDisk_of_published hk hpublished

theorem modules_on_disk_pets :
    let modules : List ApiModule := [⟨"pets", none, [], []⟩, ⟨"store", none, [], []⟩]
    let c : Client := ⟨[⟨"Pet", none, [], []⟩], modules, []⟩
    let r := Render.renderer (.constant 0)
    let f : Formatters := ⟨Prettier.absent.formatter, Formatter.json⟩
    let texts : Slots String := ⟨"", "", "", "\x7b\x7b name \x7d\x7d"⟩
    let out := FilePath.ofString "api"
    let run := emit r f texts out c (FileTree.empty ["work"])
    run.1.result = .ok (paths out c) ∧ ModulesOnDisk r f texts out c run.2 (paths out c) ∧
      (paths out c).Nodup := by
  intro modules c r f texts out run
  have hfits : Draft.Fits "pets.ts" ∧ Draft.Fits "store.ts" :=
    ⟨⟨by decide, by decide, by decide⟩, ⟨by decide, by decide, by decide⟩⟩
  have hmodules : r.modules texts >>= (fun render =>
      modules.mapM (moduleContent f render)) =
        .ok [("pets.ts", "pets".toList), ("store.ts", "store".toList)] := by
    decide +kernel
  obtain ⟨log, t', hemit⟩ := emit_fresh hmodules (by simpa using hfits)
  have hrun : run = (⟨.ok (paths out c), log⟩, t') := hemit
  rw [hrun]
  exact ⟨rfl, modules_on_disk hemit, by decide +kernel⟩

/-- Two names that differ in a sign which no file name may have: the first module is lost. -/
theorem module_lost :
    let modules : List ApiModule := [⟨"a/b", none, [], []⟩, ⟨"a_b", none, [], []⟩]
    let c : Client := ⟨[⟨"Pet", none, [], []⟩], modules, []⟩
    let r := Render.renderer (.constant 0)
    let f : Formatters := ⟨Prettier.absent.formatter, Formatter.json⟩
    let texts : Slots String := ⟨"", "", "", "\x7b\x7b name \x7d\x7d"⟩
    let out := FilePath.ofString "api"
    let run := emit r f texts out c (FileTree.empty ["work"])
    (c.modules.map ApiModule.name).Nodup ∧ run.1.result = .ok (paths out c) ∧
      ¬(paths out c).Nodup ∧ ∃ m ∈ c.modules, ¬HoldsOwn r f texts out run.2 m := by
  intro modules c r f texts out run
  have hfits : Draft.Fits "a_b.ts" := ⟨by decide, by decide, by decide⟩
  have hmodules : r.modules texts >>= (fun render =>
      modules.mapM (moduleContent f render)) =
        .ok [("a_b.ts", "a/b".toList), ("a_b.ts", "a_b".toList)] := by
    decide +kernel
  obtain ⟨log, t', hemit⟩ := emit_fresh hmodules (by simpa using hfits)
  have hrun : run = (⟨.ok (paths out c), log⟩, t') := hemit
  obtain ⟨-, k, base, t₀, hk, hpublished⟩ := published_of_emit (outcome_eq_ok.mpr ⟨log, hemit⟩)
  have hdisk := modulesOnDisk_of_published hk hpublished
  rw [hrun]
  refine ⟨by decide, rfl, by decide +kernel, ?_⟩
  by_contra hall
  have hkept : ∀ m ∈ c.modules, HoldsOwn r f texts out t' m := by
    intro m hm
    by_contra hlost
    exact hall ⟨m, hm, hlost⟩
  have hsame := hdisk.kept.mp hkept ⟨"a/b", none, [], []⟩ (by simp [modules])
    ⟨"a_b", none, [], []⟩ (by simp [modules]) (by decide)
  exact absurd hsame (by decide +kernel)

end ClientCompiler
