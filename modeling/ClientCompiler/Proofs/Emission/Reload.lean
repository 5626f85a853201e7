import ClientCompiler.Proofs.Emission.Documents
import ClientCompiler.Proofs.Emission.FreshDirectory
import ClientCompiler.Proofs.Render.Printer

/-!
The source document that is written with a client is the document: it is loaded again as it was.
-/

namespace ClientCompiler

open FileTree FileAction

namespace Emission

variable {r : Renderer} {f : Formatters} {texts : Slots String} {c : Client} {k : Contents}
  {out : FilePath} {t t' : FileTree} {ps : List FilePath}

theorem published_of_emit (h : outcome (emit r f texts out c) t = (.ok ps, t')) :
    ps = paths out c ∧ ∃ k base t₀, contents r f texts c = .ok k ∧ Published out k base t₀ t' := by
  obtain ⟨hpaths, k, hk, hpublish⟩ := publish_of_emit h
  obtain ⟨base, t₀, -, hpublished⟩ := publish_returned hpublish
  exact ⟨hpaths, k, base, t₀, hk, hpublished⟩

/-- All files of the client can be read, and what is read depends on the texts alone. -/
theorem reads_of_published {base : List String} {t₀ : FileTree} (hk : contents r f texts c = .ok k)
    (h : Published out k base t₀ t') {way : List String} (hway : way ∈ ways c) :
    ∃ octets, k.nodes.reverse.lookup way = some (.file octets) ∧
      t'.read (out.below way) = .ok octets := by
  obtain ⟨octets, hoctets⟩ := lookup_of_mem_ways hk hway
  exact ⟨octets, hoctets, (h.read hoctets).1⟩

/-! ## The source document -/

/-- The formatter does nothing to JSON that was just written but end its last line. -/
theorem settled_json {v : Value} {s : List Char} (hplain : v.isPlain = true)
    (hs : Formatter.jsonText v = .ok s) : settled Formatter.json s = .ok (s ++ ['\n']) := by
  rw [settled, Formatter.json_jsonText hplain hs]

theorem docs_of_contents (h : contents r f texts c = .ok k) (hjson : f.json = Formatter.json)
    (hplain : (Value.map c.source).isPlain = true) :
    ∃ s, Formatter.jsonText (.map c.source) = .ok s ∧ k.docs = s ++ ['\n'] := by
  obtain ⟨templates, -, -, -, -, hdocs⟩ := contents_eq_ok.mp h
  obtain ⟨s, hs, hsettled⟩ := bind_eq_ok.mp hdocs
  rw [hjson, settled_json hplain hs] at hsettled
  exact ⟨s, hs, (Except.ok.inj hsettled).symm⟩

theorem load_docs {base : List String} {t₀ : FileTree} (hk : contents r f texts c = .ok k)
    (hjson : f.json = Formatter.json) (hplain : (Value.map c.source).isPlain = true)
    (hout : out.Proper) (h : Published out k base t₀ t') (input : StandardInput)
    (ask : HttpRequest → HttpReply) :
    DocumentSource.load t'.disk input ask (.ofString (docsPath out).text) = .ok (.map c.source) := by
  obtain ⟨s, hs, hdocs⟩ := docs_of_contents hk hjson hplain
  have hlookup := k.lookup_docs
  rw [hdocs] at hlookup
  obtain ⟨hread, hfile⟩ := h.read hlookup
  have hname : (docsPath out).name = "docs.json" := FilePath.name_child out "docs.json"
  have hformat : DocumentSource.formatOfPath (docsPath out) = .json := by
    unfold DocumentSource.formatOfPath FilePath.suffix
    rw [hname]
    decide
  refine DocumentSource.load_of_written (hout.child (by decide)) (by simp [FilePath.child]) ?_
    hformat hfile hread hplain hs input ask
  rw [FilePath.name_child]
  decide

/-- The types are written by the packaged template, so that they do not depend on the renderer. -/
theorem contents_of_modules {r r' : Renderer} {texts : Slots String}
    (h : r'.modules texts = r.modules texts) (f : Formatters) (c : Client) :
    contents r' f texts c = contents r f texts c := by
  simp only [contents, h, Render.Packaged.typesText_eq]

/-! ## A client in a fresh directory -/

theorem typesText_pet (chance : Template.Chance) :
    Render.typesText chance [⟨"Pet", none, [], []⟩] =
      .ok "export interface Pet \x7b\n\x7d\n\n".toList := by
  rw [Render.Packaged.typesText_eq]
  decide +kernel

theorem free_api : (FileTree.empty ["work"]).Free (FilePath.ofString "api") := by
  refine ⟨⟨["work", "api"], by decide +kernel, ?_⟩, by decide +kernel⟩
  intro way
  simp [FileTree.find?, FileTree.empty, List.lookup_cons]

end Emission
end ClientCompiler
