import ClientCompiler.Proofs.Emission.Publishing
import ClientCompiler.Proofs.Files.Disk
import ClientCompiler.Proofs.Json.RoundTrip
import ClientCompiler.Proofs.Text.Trimming
import ClientCompiler.Proofs.Text.Utf8

/-!
The JSON files of an emission. Their texts pass the formatter, which only adds a line end, and the
file of the source document is loaded as the document.
-/

namespace ClientCompiler

open FileTree FileAction

namespace Manifest

theorem allPlain_map {α : Type} {f : α → Value} (h : ∀ a, (f a).isPlain = true) (as : List α) :
    Value.allPlain (as.map f) = true := by
  induction as with
  | nil => rfl
  | cons a as ih => rw [List.map_cons, Value.allPlain, h a, ih]; rfl

theorem isPlain_list {α : Type} {f : α → Value} (h : ∀ a, (f a).isPlain = true) (as : List α) :
    (Value.list (as.map f)).isPlain = true := by
  rw [Value.isPlain]
  exact allPlain_map h as

theorem isPlain_str (s : String) : (Value.str s).isPlain = true := rfl

theorem isPlain_map {kvs : Value.Entries} (hdistinct : Value.hasDistinctNames kvs = true)
    (hplain : Value.allEntriesPlain kvs = true) : (Value.map kvs).isPlain = true := by
  rw [Value.isPlain, hdistinct, hplain]
  rfl

theorem isPlain_ofProperty (p : Property) : (ofProperty false p).isPlain = true := by
  obtain ⟨name, type, required, description⟩ := p
  cases description <;> rfl

theorem isPlain_ofModel (m : Model) : (ofModel false m).isPlain = true := by
  have hgenerics := isPlain_list isPlain_str m.generics
  have hproperties := isPlain_list isPlain_ofProperty m.properties
  obtain ⟨name, title, generics, properties⟩ := m
  cases title <;>
    exact isPlain_map rfl
      (by simp [optional, Value.allEntriesPlain, isPlain_str, hgenerics, hproperties])

theorem isPlain_ofOperation (o : Operation) : (ofOperation false o).isPlain = true := by
  have hparameters := isPlain_list (f := ofParameter) (fun _ => rfl) o.parameters
  obtain ⟨name, method, path, description, returnType, parameters⟩ := o
  cases description <;>
    exact isPlain_map rfl (by simp [optional, Value.allEntriesPlain, isPlain_str, hparameters])

theorem isPlain_ofModule (m : ApiModule) : (ofModule false m).isPlain = true := by
  have hoperations := isPlain_list isPlain_ofOperation m.operations
  have himports := isPlain_list isPlain_str m.imports
  obtain ⟨name, description, operations, imports⟩ := m
  cases description <;>
    exact isPlain_map rfl
      (by simp [optional, Value.allEntriesPlain, isPlain_str, hoperations, himports])

end Manifest

theorem Client.isPlain_manifest (c : Client) : c.manifest.isPlain = true := by
  have hmodels := Manifest.isPlain_list Manifest.isPlain_ofModel c.models
  have hmodules := Manifest.isPlain_list Manifest.isPlain_ofModule c.modules
  exact Manifest.isPlain_map rfl (by simp [Value.allEntriesPlain, hmodels, hmodules])

namespace Text

theorem normalizeNewlines_of_not_mem {s : List Char} (h : '\r' ∉ s) : normalizeNewlines s = s := by
  induction s with
  | nil => rfl
  | cons c s ih =>
    obtain ⟨hc, hs⟩ := List.ne_and_not_mem_of_not_mem_cons h
    rw [normalizeNewlines]
    · rw [ih hs]
    · rintro _ rfl
      exact absurd rfl hc
    · rintro rfl
      exact absurd rfl hc

theorem trim_ne_nil {c : Char} (hc : isBlank c = false) (s : List Char) : trim (c :: s) ≠ [] := by
  have hright := trimRight_append_cons hc [] s
  rw [List.nil_append, List.nil_append] at hright
  rw [trim, trimLeft_cons hc, hright]
  exact List.cons_ne_nil _ _

end Text

theorem Disk.readText_of_encoded {d : Disk} {p : FilePath} {s : List Char}
    (hlines : '\r' ∉ s) (hread : d.read p = .ok (Text.encode s)) : d.readText p = .ok s := by
  rw [Disk.readText_of_decoded hread (Text.decode?_encode s), Text.normalizeNewlines_of_not_mem hlines]

theorem Formatter.starts_of_map {kvs : Value.Entries} {s : List Char}
    (h : jsonText (.map kvs) = .ok s) : ∃ r, s = '\x7b' :: r := by
  unfold jsonText Json.write at h
  cases kvs with
  | nil =>
    rw [Json.writeAt] at h
    exact ⟨_, (Except.ok.inj h).symm⟩
  | cons kv kvs =>
    rw [Json.writeAt] at h
    cases hps : Json.writeEntries (0 + 1) (kv :: kvs) with
    | error e => rw [hps] at h; cases h
    | ok ps =>
      rw [hps] at h
      exact ⟨_, (Except.ok.inj h).symm⟩

namespace DocumentSource

variable {d : Disk} {p : FilePath} {fields : Value.Entries} {s : List Char}

/-- A JSON file that holds the text of an object, and a line end, is loaded as the object. -/
theorem load_of_written (hp : p.Proper) (hne : p.names ≠ []) (hname : p.name ≠ "-")
    (hformat : formatOfPath p = .json) (hfile : d.isFile p = .ok true)
    (hread : d.read p = .ok (Text.encode (s ++ ['\n'])))
    (hplain : (Value.map fields).isPlain = true) (hs : Formatter.jsonText (.map fields) = .ok s)
    (input : StandardInput) (ask : HttpRequest → HttpReply) :
    load d input ask (.ofString p.text) = .ok (.map fields) := by
  obtain ⟨s', hs', hwritten⟩ := Formatter.jsonText_of_plain hplain
  obtain rfl : s = s' := Except.ok.inj (hs.symm.trans hs')
  have htext : d.readText p = .ok (s ++ ['\n']) :=
    Disk.readText_of_encoded (by simp [hwritten.lines]) hread
  have hblank : (Text.trim (s ++ ['\n'])).isEmpty = false := by
    obtain ⟨r, rfl⟩ := Formatter.starts_of_map hs
    simpa using Text.trim_ne_nil (by decide) (r ++ ['\n'])
  have hparse : Content.parse .json (s ++ ['\n']) = .ok (.map fields) := by
    unfold Content.parse
    rw [if_neg (by decide), hwritten.parse (Or.inr rfl)]
    rfl
  rw [hp.source_text hne hname]
  simp only [load, readFile, hp.ofString_text hne, hfile, htext, hformat]
  simp [Bind.bind, Except.bind, hblank, hparse]

end DocumentSource

end ClientCompiler
