import ClientCompiler.Document.Modules
import ClientCompiler.Proofs.Document.Independence
import ClientCompiler.Proofs.Emission.ModuleFiles
import ClientCompiler.Proofs.Render.ModulePrinter

/-!
A client that is compiled again from its source document, and written elsewhere. The types, the
manifest and the document have the same octets as before, whatever the templates do; a module has them
if it is rendered as before. A template that leaves something to chance may render it in another way.
-/

namespace ClientCompiler

open FileTree FileAction

def Renderer.text (r : Renderer) (texts : Slots String) (m : ApiModule) : Except Fault (List Char) := do
  let render ← r.modules texts
  render m

/-- The packaged templates leave nothing to chance. -/
theorem Render.modules_packaged (chance chance' : Template.Chance) :
    (renderer chance).modules Packaged.slots = (renderer chance').modules Packaged.slots := by
  have htext (chance : Template.Chance) : (readTemplates Packaged.slots).map (moduleText chance) =
      .ok fun m => .ok (textOf (moduleSegments m)) := by
    rw [Packaged.readTemplates_slots]
    refine congrArg Except.ok (funext fun m => ?_)
    have hmodule := moduleText_eq chance m
    rw [Packaged.readTemplates_slots] at hmodule
    exact hmodule
  simp only [renderer, htext]

namespace Emission

variable {r r' : Renderer} {f : Formatters} {texts : Slots String} {c : Client} {k k' : Contents}
  {out out' : FilePath} {t t' u u' : FileTree} {ps : List FilePath} {base base' : List String}

theorem ownText_eq (r : Renderer) (f : Formatters) (texts : Slots String) (m : ApiModule) :
    ownText r f texts m = r.text texts m >>= settled f.code := by
  unfold ownText Renderer.text
  cases r.modules texts <;> rfl

/-- Two emissions of one client, in the directories `out` and `out'` of two trees, with the same octets
but for the modules that are rendered in another way. -/
structure Matched (r r' : Renderer) (texts : Slots String) (c : Client) (out out' : FilePath)
    (t u : FileTree) : Prop where
  types : u.read (typesPath out') = t.read (typesPath out)
  modules : ∀ m ∈ c.modules, (∀ m' ∈ c.modules, moduleFile m' = moduleFile m →
    r'.text texts m' = r.text texts m') → u.read (modulePath out' m) = t.read (modulePath out m)
  manifest : u.read (manifestPath out') = t.read (manifestPath out)
  docs : u.read (docsPath out') = t.read (docsPath out)

/-- What the emission of a client by the renderer `r'` does in any other directory `out'` of any tree,
after the renderer `r` has left the tree `t`. With the same templates for modules only the file system
can make it fail, it leaves the same octets in every file, and it returns where nothing is yet. -/
structure Reproduced (emission : FilePath → FileAction (List FilePath)) (r r' : Renderer)
    (texts : Slots String) (c : Client) (out : FilePath) (t : FileTree) : Prop where
  matched : ∀ out' u ps u', outcome (emission out') u = (.ok ps, u') →
    ps = paths out' c ∧ Matched r r' texts c out out' t u'
  refuses : r'.modules texts = r.modules texts → ∀ out' u, OnlyRefuses (outcome (emission out') u).1
  same : r'.modules texts = r.modules texts → ∀ out' u ps u',
    outcome (emission out') u = (.ok ps, u') → ps.map u'.read = (paths out c).map t.read
  returns : r'.modules texts = r.modules texts → ∀ out' u, u.Free out' →
    ∃ ps u', outcome (emission out') u = (.ok ps, u')

theorem Reproduced.congr {x y : FilePath → FileAction (List FilePath)}
    (hy : Reproduced y r r' texts c out t) (h : ∀ out', Same (x out') (y out')) :
    Reproduced x r r' texts c out t := by
  refine ⟨?_, ?_, ?_, ?_⟩
  · intro out' u ps u' hx
    rw [h out' u] at hx
    exact hy.matched out' u ps u' hx
  · intro hsame out' u
    rw [h out' u]
    exact hy.refuses hsame out' u
  · intro hsame out' u ps u' hx
    rw [h out' u] at hx
    exact hy.same hsame out' u ps u' hx
  · intro hsame out' u hfree
    rw [h out' u]
    exact hy.returns hsame out' u hfree

theorem contents_alike (hk : contents r f texts c = .ok k) (hk' : contents r' f texts c = .ok k') :
    k'.types = k.types ∧ k'.manifest = k.manifest ∧ k'.docs = k.docs := by
  obtain ⟨_, -, htypes, -, hmanifest, hdocs⟩ := contents_eq_ok.mp hk
  obtain ⟨_, -, htypes', -, hmanifest', hdocs'⟩ := contents_eq_ok.mp hk'
  rw [Render.Packaged.typesText_eq] at htypes htypes'
  exact ⟨Except.ok.inj (htypes'.symm.trans htypes), Except.ok.inj (hmanifest'.symm.trans hmanifest),
    Except.ok.inj (hdocs'.symm.trans hdocs)⟩

/-- Both trees hold the texts that were made for them, and a module has the text of the last one with
its file name. -/
theorem matched_of_published (hk : contents r f texts c = .ok k) (hk' : contents r' f texts c = .ok k')
    (h : Published out k base t t') (h' : Published out' k' base' u u') :
    Matched r r' texts c out out' t' u' := by
  obtain ⟨htypes, hmanifest, hdocs⟩ := contents_alike hk hk'
  have hread {name : String} {s : List Char}
      (hlookup : k.nodes.reverse.lookup [name] = some (.file (Text.encode s)))
      (hlookup' : k'.nodes.reverse.lookup [name] = some (.file (Text.encode s))) :
      u'.read (out'.child name) = t'.read (out.child name) := by
    rw [FilePath.child_eq_below, FilePath.child_eq_below]
    exact (h'.read hlookup').1.trans (h.read hlookup).1.symm
  refine ⟨?_, ?_, ?_, ?_⟩
  · exact hread k.lookup_types (htypes ▸ k'.lookup_types)
  · intro m hm hsame
    obtain ⟨before, last, after, hsplit, hfile, hafter⟩ := exists_last hm
    obtain ⟨s, hs, hread⟩ := holdsOwn_last hk h hsplit hafter
    obtain ⟨s', hs', hread'⟩ := holdsOwn_last hk' h' hsplit hafter
    have hlast : last ∈ c.modules := by
      rw [hsplit]
      simp
    rw [ownText_eq, hsame last hlast hfile, ← ownText_eq, hs] at hs'
    obtain rfl := Except.ok.inj hs'
    have hpath (out : FilePath) : modulePath out m = modulePath out last :=
      congrArg (modulesDir out).child hfile.symm
    rw [hpath, hpath, hread, hread']
  · exact hread k.lookup_manifest (hmanifest ▸ k'.lookup_manifest)
  · exact hread k.lookup_docs (hdocs ▸ k'.lookup_docs)

theorem reproduced_emit (h : outcome (emit r f texts out c) t = (.ok ps, t')) (r' : Renderer) :
    Reproduced (fun out' => emit r' f texts out' c) r r' texts c out t' := by
  obtain ⟨-, k, base, t₀, hk, hpublished⟩ := published_of_emit h
  refine ⟨?_, ?_, ?_, ?_⟩
  · intro out' u ps' u' hemit
    obtain ⟨hps, k', base', u₀, hk', hpublished'⟩ := published_of_emit hemit
    exact ⟨hps, matched_of_published hk hk' hpublished hpublished'⟩
  · intro hsame out' u
    rw [← contents_of_modules hsame] at hk
    rw [same_emit hk out' u]
    exact ((refuses_publish out' k).bind fun _ => refuses_pure (paths out' c)) u
  · intro hsame out' u ps' u' hemit
    obtain ⟨hps, k', base', u₀, hk', hpublished'⟩ := published_of_emit hemit
    rw [contents_of_modules hsame] at hk'
    obtain rfl := Except.ok.inj (hk.symm.trans hk')
    -- Both sides read the ways of the client, and the texts `k` tell what is there.
    rw [hps, paths_eq, paths_eq, List.map_map, List.map_map]
    refine List.map_congr_left fun way hway => ?_
    obtain ⟨octets, hoctets, hread⟩ := reads_of_published hk hpublished hway
    exact ((hpublished'.read hoctets).1).trans hread.symm
  · intro hsame out' u hfree
    rw [← contents_of_modules hsame] at hk
    obtain ⟨u', hemit⟩ := emit_of_free hk (fun m hm => (hpublished.moduleFiles m hm).fits) hfree
    exact ⟨_, u', hemit⟩

def reissue (table : TypeTable) (r : Renderer) (f : Formatters) (texts : Slots String)
    (input : StandardInput) (ask : HttpRequest → HttpReply) (files : FileTree) (source : String)
    (out : FilePath) : FileAction (List FilePath) := do
  let document ← FileAction.lift
    (Traced.lift (DocumentSource.load files.disk input ask (.ofString source)))
  let client ← FileAction.lift (compile table document)
  emit r f texts out client

theorem same_reissue {table : TypeTable} {document : Value} {log : List Diagnostic}
    {input : StandardInput} {ask : HttpRequest → HttpReply} {files : FileTree} {source : String}
    (hload : DocumentSource.load files.disk input ask (.ofString source) = .ok document)
    (hcompile : compile table document = ⟨.ok c, log⟩) (r : Renderer) (out : FilePath) :
    Same (reissue table r f texts input ask files source out) (emit r f texts out c) := by
  unfold reissue
  simp only [bind_eq]
  refine (same_lift_bind hload).trans ?_
  exact same_lift_bind (by rw [hcompile])

theorem emit_module {m : ApiModule} {s : List Char} (hfree : t.Free out)
    (hmodels : c.models = [⟨"Pet", none, [], []⟩])
    (hmodules : c.modules = [m]) (hplain : (Value.map c.source).isPlain = true)
    (hfits : Draft.Fits (moduleFile m))
    (hown : ownText r ⟨Prettier.absent.formatter, Formatter.json⟩ texts m = .ok s) :
    ∃ t', outcome (emit r ⟨Prettier.absent.formatter, Formatter.json⟩ texts out c) t =
        (.ok (paths out c), t') ∧
      t'.read (modulePath out m) = .ok (Text.encode s) := by
  have htypes : ∃ types, Render.typesText r.chance c.models >>= settled Prettier.absent.formatter =
      .ok types := by
    rw [hmodels]
    exact ⟨_, bind_eq_ok.mpr ⟨_, typesText_pet _, rfl⟩⟩
  obtain ⟨types, htypes⟩ := htypes
  have htexts : r.modules texts >>= (fun render => c.modules.mapM
      (moduleContent ⟨Prettier.absent.formatter, Formatter.json⟩ render)) =
        .ok [(moduleFile m, s)] := by
    obtain ⟨render, hrender, hs⟩ := bind_eq_ok.mp hown
    rw [hmodules]
    refine bind_eq_ok.mpr ⟨render, hrender, mapM_cons_eq_ok.mpr ⟨_, _, ?_, rfl, rfl⟩⟩
    exact moduleContent_eq_ok.mpr ⟨s, hs, rfl⟩
  obtain ⟨t', hemit⟩ := emit_of_code htypes htexts hplain (by simpa using hfits) hfree
  obtain ⟨-, k, base, t₀, hk, hpublished⟩ := published_of_emit hemit
  have hsplit : c.modules = [] ++ [m] := hmodules
  obtain ⟨s', hs', hread⟩ := holdsOwn_last hk hpublished hsplit nofun
  obtain rfl := Except.ok.inj (hown.symm.trans hs')
  exact ⟨t', hemit, hread⟩

end Emission

open Emission

variable {table : TypeTable} {fields : Value.Entries} {c : Client} {r : Renderer} {code : Formatter}
  {texts : Slots String} {out : String} {t t' : FileTree} {ps : List FilePath}
  {log log' : List Diagnostic}

end ClientCompiler
