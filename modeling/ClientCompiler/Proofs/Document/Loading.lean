import ClientCompiler.Document.Source
import ClientCompiler.Files.Tree
import ClientCompiler.Proofs.Files.Disk
import ClientCompiler.Web.Client

/-!
How the loading of a document ends: with an object, with a failed retrieval, or with a fault that
is not foreseen. Two relations tell which, by what comes from the source and from the two parsers,
and the loading is shown to end as they say.
-/

namespace ClientCompiler

/-- An object, or a failed retrieval. -/
def Obtained (x : Except Fault Value) : Prop :=
  (∃ fields, x = .ok (.map fields)) ∨ ∃ cause, x = .error (.retrieval cause)

/-- A computation ends with an object that `q` holds of, with a failed retrieval, or with a fault
that `p` holds of. -/
inductive EndsIn (q : Value.Entries → Prop) (p : Fault → Prop) : Except Fault Value → Prop
  | object {fields : Value.Entries} (h : q fields) : EndsIn q p (.ok (.map fields))
  | retrieval (cause : RetrievalCause) : EndsIn q p (.error (.retrieval cause))
  | fault {e : Fault} (h : p e) : EndsIn q p (.error e)

theorem EndsIn.mono {q q' : Value.Entries → Prop} {p p' : Fault → Prop} {x : Except Fault Value}
    (h : EndsIn q p x) (hq : ∀ fields, q fields → q' fields) (hp : ∀ e, p e → p' e) :
    EndsIn q' p' x := by
  cases h with
  | object h => exact .object (hq _ h)
  | retrieval cause => exact .retrieval cause
  | fault h => exact .fault (hp _ h)

theorem not_obtained_error {e : Fault} (h : e.class? = none) : ¬ Obtained (.error e) := by
  rintro (⟨fields, hok⟩ | ⟨cause, herror⟩)
  · cases hok
  · cases herror
    cases h

/-! ## The text of a document -/

namespace Content

def yamlFault? : Yaml.Failure → Option Fault
  | .malformed => none
  | .badValue => some .badValue
  | .unknownWord => some .unknownWord
  | .emptyText => some .emptyText
  | .noMatch => some .noMember
  | .overflow => some .overflow
  | .unfit => some .unfit
  | .endless => some .endless

/-- YAML is read where it is asked for, and where a text is no JSON and JSON is not asked for. -/
def ReadsYaml (format : Format) (text : List Char) : Prop :=
  format = .yaml ∨
    format = .unknown ∧ ∃ cause left, Json.parse text = .error (.malformed cause left)

/-- A text that one of the parsers fails on in a way that is not foreseen: an integer of JSON has
too many digits, or a scalar of YAML has no value. -/
inductive Misread (format : Format) (text : List Char) : Fault → Prop
  | json (hformat : format ≠ .yaml) (h : Json.parse text = .error .integerTooLong) :
      Misread format text .badValue
  | yaml {f : Yaml.Failure} {e : Fault} (hformat : ReadsYaml format text)
      (h : Yaml.parse text = .error f) (he : yamlFault? f = some e) : Misread format text e

inductive Holds (format : Format) (text : List Char) : Value.Entries → Prop
  | json {fields : Value.Entries} (hformat : format ≠ .yaml)
      (h : Json.parse text = .ok (.map fields)) : Holds format text fields
  | yaml {fields : Value.Entries} (hformat : ReadsYaml format text)
      (h : Yaml.parse text = .ok (.map fields)) : Holds format text fields

theorem ends_requireObject (p : Fault → Prop) (v : Value) :
    EndsIn (v = .map ·) p (requireObject v) := by
  cases v with
  | map fields => exact .object rfl
  | _ => exact .retrieval _

theorem ends_parseYaml (reason : Option String) (text : List Char) :
    EndsIn (fun fields => Yaml.parse text = .ok (.map fields))
      (fun e => ∃ f, Yaml.parse text = .error f ∧ yamlFault? f = some e)
      (parseYaml reason text) := by
  unfold parseYaml
  cases h : Yaml.parse text with
  | ok v => exact (ends_requireObject _ v).mono (fun fields hv => by rw [hv]) fun _ => id
  | error f =>
    cases f with
    | malformed => exact .retrieval _
    | _ => exact .fault ⟨_, rfl, rfl⟩

theorem ends_parse (format : Format) (text : List Char) :
    EndsIn (Holds format text) (Misread format text) (parse format text) := by
  have hread (reason : Option String) (hformat : ReadsYaml format text) :
      EndsIn (Holds format text) (Misread format text) (parseYaml reason text) := by
    refine (ends_parseYaml reason text).mono (fun fields h => .yaml hformat h) ?_
    rintro e ⟨f, h, he⟩
    exact .yaml hformat h he
  unfold parse
  split
  · next hyaml => exact hread none (Or.inl hyaml)
  · next hyaml =>
    split
    · next v hjson =>
      refine (ends_requireObject _ v).mono (fun fields hv => ?_) fun _ => id
      exact .json hyaml (by rw [hjson, hv])
    · next hjson => exact .fault (.json hyaml hjson)
    · next cause left hjson =>
      dsimp only
      split
      · exact .retrieval _
      · next hformat =>
        have hunknown : format = .unknown := by
          cases format <;> first | rfl | exact absurd rfl hformat | exact absurd rfl hyaml
        exact hread _ (Or.inr ⟨hunknown, cause, left, hjson⟩)

theorem parseYaml_of_ok {reason : Option String} {text : List Char} {fields : Value.Entries}
    (h : Yaml.parse text = .ok (.map fields)) : parseYaml reason text = .ok (.map fields) := by
  unfold parseYaml
  rw [h]
  rfl

theorem parseYaml_of_error {reason : Option String} {text : List Char} {f : Yaml.Failure}
    {e : Fault} (h : Yaml.parse text = .error f) (he : yamlFault? f = some e) :
    parseYaml reason text = .error e ∧ e.class? = none := by
  unfold parseYaml
  rw [h]
  cases f with
  | malformed => cases he
  | _ =>
    obtain rfl := Option.some.inj he
    exact ⟨rfl, rfl⟩

theorem parse_of_readsYaml {format : Format} {text : List Char} (h : ReadsYaml format text) :
    ∃ reason, parse format text = parseYaml reason text := by
  unfold parse
  rcases h with rfl | ⟨rfl, cause, left, hjson⟩
  · exact ⟨none, rfl⟩
  · rw [hjson]
    exact ⟨_, rfl⟩

theorem parse_of_holds {format : Format} {text : List Char} {fields : Value.Entries}
    (h : Holds format text fields) : parse format text = .ok (.map fields) := by
  cases h with
  | json hformat hjson =>
    unfold parse
    rw [if_neg hformat, hjson]
    rfl
  | yaml hformat hyaml =>
    obtain ⟨reason, hparse⟩ := parse_of_readsYaml hformat
    rw [hparse]
    exact parseYaml_of_ok hyaml

theorem parse_of_misread {format : Format} {text : List Char} {e : Fault}
    (h : Misread format text e) : parse format text = .error e ∧ e.class? = none := by
  cases h with
  | json hformat hjson =>
    unfold parse
    rw [if_neg hformat, hjson]
    exact ⟨rfl, rfl⟩
  | yaml hformat hyaml he =>
    obtain ⟨reason, hparse⟩ := parse_of_readsYaml hformat
    rw [hparse]
    exact parseYaml_of_error hyaml he

end Content

/-! ## Sources -/

namespace DocumentSource

variable (d : Disk) (input : StandardInput) (ask : HttpRequest → HttpReply)

/-- A text comes from a source, together with the format that the source tells. -/
inductive Gives : DocumentSource → Format → List Char → Prop
  | input {s : List Char} (h : input = .text s) (hblank : Text.trim s ≠ []) :
      Gives .standardInput .unknown s
  | reply {url : String} {r : HttpResponse} {s : List Char} (h : ask (request url) = .response r)
      (hstatus : 200 ≤ r.status ∧ r.status < 300) (htext : r.text = .ok s) :
      Gives (.address url) (formatOfContentType r.contentType) s
  | file {path : String} {s : List Char} (hfile : d.isFile (.ofString path) = .ok true)
      (h : d.readText (.ofString path) = .ok s) (hblank : Text.trim s ≠ []) :
      Gives (.file path) (formatOfPath (.ofString path)) s

def Yields (source : DocumentSource) (fields : Value.Entries) : Prop :=
  ∃ format text, Gives d input ask source format text ∧ Content.Holds format text fields

/-- What may come from a source that its loading does not foresee: something else than a failed
reading of the input or a failed request, an answer that is no text, a file that the system refuses
to be asked about or that is no text, and a text that is misread. -/
inductive Unforeseen : DocumentSource → Fault → Prop
  | input {e : ForeignFault} (h : input = .raised e) : Unforeseen .standardInput e
  | request {url : String} {e : ForeignFault} (h : ask (request url) = .raised e) :
      Unforeseen (.address url) e
  | answer {url : String} {r : HttpResponse} {e : ForeignFault}
      (h : ask (DocumentSource.request url) = .response r)
      (hstatus : 200 ≤ r.status ∧ r.status < 300) (htext : r.text = .error e) :
      Unforeseen (.address url) e
  | refused {path : String} {f : SystemFault} (h : d.Refuses (.ofString path) f) :
      Unforeseen (.file path) (.system f)
  | octets {path : String} {octets : List UInt8} (hfile : d.isFile (.ofString path) = .ok true)
      (h : d.read (.ofString path) = .ok octets) (hdecode : Text.decode? octets = none) :
      Unforeseen (.file path) .undecodable
  | content {source : DocumentSource} {format : Format} {text : List Char} {e : Fault}
      (hgives : Gives d input ask source format text) (h : Content.Misread format text e) :
      Unforeseen source e

variable {d input ask}

section Steps

variable {url path : String} {e : Fault} {s : List Char}

theorem load_address :
    load d input ask (.address url) = readReply url (ask (request url)) := rfl

theorem readReply_of_success {r : HttpResponse} (hstatus : 200 ≤ r.status ∧ r.status < 300) :
    readReply url (.response r) = match r.text with
      | .ok s => Content.parse (formatOfContentType r.contentType) s
      | .error e => .error e.val := by
  unfold readReply
  dsimp only
  exact if_pos (by simpa using hstatus)

theorem readFile_of_error (h : d.isFile (.ofString path) = .error e) :
    readFile d path = .error e := by
  simp only [readFile, h, Bind.bind, Except.bind]

theorem readFile_of_absent (h : d.isFile (.ofString path) = .ok false) :
    readFile d path = Content.retrieval (.notFound path) := by
  simp only [readFile, h, Bind.bind, Except.bind]
  rfl

theorem readFile_of_unread {f : SystemFault} (hfile : d.isFile (.ofString path) = .ok true)
    (h : d.readText (.ofString path) = .error (.system f)) :
    ∃ cause, readFile d path = .error (.retrieval cause) := by
  simp only [readFile, hfile, h, Bind.bind, Except.bind]
  exact ⟨_, rfl⟩

theorem readFile_of_undecodable (hfile : d.isFile (.ofString path) = .ok true)
    (h : d.readText (.ofString path) = .error .undecodable) :
    readFile d path = .error .undecodable := by
  simp only [readFile, hfile, h, Bind.bind, Except.bind]
  rfl

theorem readFile_of_text (hfile : d.isFile (.ofString path) = .ok true)
    (h : d.readText (.ofString path) = .ok s) :
    readFile d path = if (Text.trim s).isEmpty then Content.retrieval (.emptyFile path)
      else Content.parse (formatOfPath (.ofString path)) s := by
  simp only [readFile, hfile, h, Bind.bind, Except.bind]
  rfl

end Steps

theorem load_of_gives {source : DocumentSource} {format : Format} {s : List Char}
    (h : Gives d input ask source format s) : load d input ask source = Content.parse format s := by
  cases h with
  | input h hblank =>
    subst h
    exact if_neg (by simpa using hblank)
  | reply h hstatus htext =>
    rw [load_address, h, readReply_of_success hstatus, htext]
  | file hfile h hblank =>
    change readFile d _ = _
    rw [readFile_of_text hfile h]
    exact if_neg (by simpa using hblank)

theorem load_of_unforeseen {source : DocumentSource} {e : Fault}
    (h : Unforeseen d input ask source e) :
    load d input ask source = .error e ∧ e.class? = none := by
  cases h with
  | @input e h =>
    subst h
    exact ⟨rfl, e.property⟩
  | @request url e h =>
    rw [load_address, h]
    exact ⟨rfl, e.property⟩
  | @answer url r e h hstatus htext =>
    rw [load_address, h, readReply_of_success hstatus, htext]
    exact ⟨rfl, e.property⟩
  | refused h => exact ⟨readFile_of_error (Disk.isFile_eq_error.mpr ⟨_, h, rfl⟩), rfl⟩
  | octets hfile h hdecode =>
    exact ⟨readFile_of_undecodable hfile (Disk.readText_of_undecodable h hdecode), rfl⟩
  | content hgives h =>
    rw [load_of_gives hgives]
    exact Content.parse_of_misread h

/-- The cases are those of the loading; what a source gives ends as its text does. -/
theorem ends_load (source : DocumentSource) :
    EndsIn (Yields d input ask source) (Unforeseen d input ask source)
      (load d input ask source) := by
  -- All three kinds of sources meet here, where only the text is left to read.
  have hgiven {format : Format} {s : List Char} (h : Gives d input ask source format s) :
      EndsIn (Yields d input ask source) (Unforeseen d input ask source) (Content.parse format s) :=
    (Content.ends_parse format s).mono (fun fields hholds => ⟨format, s, h, hholds⟩)
      fun e hmisread => .content h hmisread
  cases source with
  | standardInput =>
    change EndsIn _ _ (readInput input)
    unfold readInput
    split
    · exact .retrieval _
    · exact .fault (.input rfl)
    · split
      · exact .retrieval _
      · next hblank => exact hgiven (.input rfl (by simpa using hblank))
  | address url =>
    change EndsIn _ _ (readReply url (ask (request url)))
    cases hask : ask (request url) with
    | failed reason => exact .retrieval _
    | raised e => exact .fault (.request hask)
    | response r =>
      by_cases hstatus : 200 ≤ r.status ∧ r.status < 300
      · rw [readReply_of_success hstatus]
        cases htext : r.text with
        | ok s => exact hgiven (.reply hask hstatus htext)
        | error e => exact .fault (.answer hask hstatus htext)
      · unfold readReply
        dsimp only
        rw [if_neg (by simpa using hstatus)]
        exact .retrieval _
  | file path =>
    change EndsIn _ _ (readFile d path)
    cases hfile : d.isFile (.ofString path) with
    | error e =>
      rw [readFile_of_error hfile]
      obtain ⟨f, hrefuses, rfl⟩ := Disk.isFile_eq_error.mp hfile
      exact .fault (.refused hrefuses)
    | ok found =>
      cases found with
      | false =>
        rw [readFile_of_absent hfile]
        exact .retrieval _
      | true =>
        rcases Disk.readText_cases hfile with ⟨s, htext⟩ | ⟨f, hunread⟩ | ⟨octets, hread, hdecode⟩
        · rw [readFile_of_text hfile htext]
          split
          · exact .retrieval _
          · next hblank => exact hgiven (.file hfile htext (by simpa using hblank))
        · obtain ⟨cause, hcause⟩ := readFile_of_unread hfile hunread
          rw [hcause]
          exact .retrieval cause
        · rw [readFile_of_undecodable hfile (Disk.readText_of_undecodable hread hdecode)]
          exact .fault (.octets hfile hread hdecode)

/-- The loading of a document obtains an object or fails to retrieve it exactly where nothing
unforeseen comes from its source. Each unforeseen fault ends it as it is, and the objects that it
obtains are those that its source yields. -/
theorem load_obtains (d : Disk) (input : StandardInput) (ask : HttpRequest → HttpReply)
    (source : DocumentSource) :
    (Obtained (load d input ask source) ↔ ∀ e, ¬ Unforeseen d input ask source e) ∧
      (∀ e, Unforeseen d input ask source e ↔
        load d input ask source = .error e ∧ e.class? = none) ∧
      ∀ fields, Yields d input ask source fields ↔
        load d input ask source = .ok (.map fields) := by
  have hends : EndsIn (Yields d input ask source) (Unforeseen d input ask source)
      (load d input ask source) := ends_load source
  refine ⟨⟨?_, ?_⟩, fun e => ⟨load_of_unforeseen, ?_⟩, fun fields => ⟨?_, ?_⟩⟩
  · intro hobtained e he
    obtain ⟨hload, hclass⟩ := load_of_unforeseen he
    rw [hload] at hobtained
    exact not_obtained_error hclass hobtained
  · intro hnone
    generalize load d input ask source = x at hends
    cases hends with
    | object h => exact Or.inl ⟨_, rfl⟩
    | retrieval cause => exact Or.inr ⟨cause, rfl⟩
    | fault h => exact absurd h (hnone _)
  · rintro ⟨hload, hclass⟩
    rw [hload] at hends
    cases hends with
    | retrieval cause => cases hclass
    | fault h => exact h
  · rintro ⟨format, text, hgives, hholds⟩
    rw [load_of_gives hgives]
    exact Content.parse_of_holds hholds
  · intro hload
    rw [hload] at hends
    cases hends with
    | object h => exact h

/-- Octets that are no UTF-8, a date on no calendar, and an address whose host spells no name. -/
theorem load_not_obtained :
    let octets : List UInt8 := [0xff]
    let t := ((FileTree.empty ["work"]).put ["work", "doc.json"] (.file octets)).put
      ["work", "doc.yaml"] (.file (Text.encode "day: 2001-13-45".toList))
    let loaded (source : String) : Except Fault Value :=
      load t.disk (.text []) (Web.ask fun _ => .failed "no network") (.ofString source)
    loaded "doc.json" = .error .undecodable ∧ loaded "doc.yaml" = .error .badValue ∧
      loaded "http://xn--/" = .error (.badHost .malformed) ∧
      ∀ source ∈ ["doc.json", "doc.yaml", "http://xn--/"], ¬ Obtained (loaded source) := by
  intro octets t loaded
  have hoctets : (loaded "doc.json").map (fun _ => true) = .error .undecodable := by decide +kernel
  have hdate : (loaded "doc.yaml").map (fun _ => true) = .error .badValue := by decide +kernel
  have haddress : (loaded "http://xn--/").map (fun _ => true) =
      .error (.badHost .malformed) := by
    decide +kernel
  rw [map_eq_error] at hoctets hdate haddress
  refine ⟨hoctets, hdate, haddress, ?_⟩
  intro source hsource
  simp only [List.mem_cons, List.not_mem_nil, or_false] at hsource
  rcases hsource with rfl | rfl | rfl
  · rw [hoctets]
    exact not_obtained_error rfl
  · rw [hdate]
    exact not_obtained_error rfl
  · rw [haddress]
    exact not_obtained_error rfl

end DocumentSource
end ClientCompiler
