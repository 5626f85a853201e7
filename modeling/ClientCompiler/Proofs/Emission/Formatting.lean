import ClientCompiler.Proofs.Emission.Contents
import ClientCompiler.Proofs.Files.Outline

/-!
Formatters that reject. An emission takes its steps in an order that no formatter has a say in, and
a run of these steps keeps the writes that it calls. With any formatters the calls are the same as
without formatting, only the texts differ: each is the formatted one, or the text itself where it is
rejected, and then the log says so.
-/

namespace ClientCompiler

abbrev Formatting := ArtifactKind → List Char → Except String (List Char)

namespace Formatting

def plain : Formatting := fun _ s => .ok s

def formatters (g : Formatting) : Formatters :=
  ⟨fun s => Traced.lift ((g .code s).mapError .format),
    fun s => Traced.lift ((g .json s).mapError .format)⟩

theorem get_formatters (g : Formatting) (kind : ArtifactKind) :
    g.formatters.get kind = fun s => Traced.lift ((g kind s).mapError .format) := by
  cases kind <;> rfl

end Formatting

namespace Emission

inductive Step where
  | makeDirs (p : FilePath)
  | artifact (a : Artifact)
  | fault (e : Fault)

def laterArtifacts (render : ApiModule → Except Fault (List Char)) (out : FilePath) (c : Client) :
    List Artifact :=
  c.modules.map (moduleArtifact out render) ++ [manifestArtifact out c, docsArtifact out c]

def script (renderer : Renderer) (texts : Slots String) (out : FilePath) (c : Client) : List Step :=
  .makeDirs out ::
    match renderer.modules texts with
    | .error e => [.fault e]
    | .ok render => .artifact (typesArtifact renderer.chance out c) :: .makeDirs (modulesDir out) ::
        (laterArtifacts render out c).map .artifact

def perform (f : Formatters) : List Step → FileAction (List FilePath)
  | [] => FileAction.pure []
  | .makeDirs p :: steps => (FileAction.makeDirs p).bind fun _ => perform f steps
  | .fault e :: _ => FileAction.lift (Traced.fail e)
  | .artifact a :: steps =>
    (writeArtifact f a).bind fun p => (perform f steps).bind fun ps => FileAction.pure (p :: ps)

theorem perform_artifacts (f : Formatters) (as bs : List Artifact) :
    perform f ((as ++ bs).map .artifact) =
      (FileAction.each (writeArtifact f) as).bind fun ps =>
        (perform f (bs.map .artifact)).bind fun qs => FileAction.pure (ps ++ qs) := by
  induction as with
  | nil => simp [FileAction.each]
  | cons a as ih =>
    simp only [List.cons_append, List.map_cons, perform, FileAction.each, ih,
      FileAction.bind_assoc, FileAction.pure_bind]

theorem each_map {α β : Type} (g : β → FileAction FilePath) (h : α → β) (as : List α) :
    FileAction.each g (as.map h) = FileAction.each (fun a => g (h a)) as := by
  induction as with
  | nil => rfl
  | cons a as ih => rw [List.map_cons, FileAction.each, FileAction.each, ih]

theorem lift_ok_bind {α β : Type} (a : α) (k : α → FileAction β) :
    (FileAction.lift (Traced.lift (.ok a))).bind k = k a := by
  funext t
  simp [FileAction.bind, Traced.lift]

theorem lift_error_bind {α β : Type} (e : Fault) (k : α → FileAction β) :
    (FileAction.lift (Traced.lift (.error e))).bind k = FileAction.lift (Traced.fail e) := rfl

theorem emit_eq_perform (renderer : Renderer) (f : Formatters) (texts : Slots String)
    (out : FilePath) (c : Client) :
    emit renderer f texts out c = perform f (script renderer texts out c) := by
  simp only [emit, script, FileAction.bind_eq, FileAction.pure_eq, perform]
  congr 1
  funext _
  cases renderer.modules texts with
  | error e => rw [lift_error_bind, perform]
  | ok render =>
    rw [lift_ok_bind]
    simp only [perform, laterArtifacts, perform_artifacts, each_map, List.map_cons, List.map_nil,
      FileAction.bind_assoc, FileAction.pure_bind, List.cons_append]

/-- A call to write a text: where, the formatter it has gone through, the text before and after. -/
structure Writing where
  path : FilePath
  kind : ArtifactKind
  plain : List Char
  text : List Char
  deriving DecidableEq, Repr

namespace Writing

variable (g : Formatting)

def ofText (path : FilePath) (kind : ArtifactKind) (s : List Char) : Writing :=
  ⟨path, kind, s, (g kind s).toOption.getD s⟩

def rejection? (w : Writing) : Option Diagnostic :=
  match g w.kind w.plain with
  | .ok _ => none
  | .error reason => some (.formatRejected w.path.text reason)

def unformatted (w : Writing) : FilePath × ArtifactKind × List Char := (w.path, w.kind, w.plain)

end Writing

/-- The writes that were called, how the steps ended with what was logged, and the tree they left. -/
structure Run where
  writes : List Writing
  ended : Traced (List FilePath)
  tree : FileTree

/-- Takes steps in order up to the first fault, and keeps the calls to write. -/
def run (g : Formatting) : List Step → FileTree → Run
  | [], t => ⟨[], Traced.pure [], t⟩
  | .makeDirs p :: steps, t =>
    match t.makeDirs p with
    | (.ok (), t') => run g steps t'
    | (.error e, t') => ⟨[], Traced.fail e, t'⟩
  | .fault e :: _, t => ⟨[], Traced.fail e, t⟩
  | .artifact a :: steps, t =>
    match a.text with
    | .error e => ⟨[], Traced.fail e, t⟩
    | .ok s =>
      let w := Writing.ofText g a.path a.kind s
      let call := t.atomicWrite (fun _ => false) w.path (Text.encode w.text)
      match call.result with
      | .error e => ⟨[w], ⟨.error e, (w.rejection? g).toList⟩, call.last t⟩
      | .ok () =>
        let rest := run g steps (call.last t)
        ⟨w :: rest.writes, ⟨rest.ended.result.map (w.path :: ·),
          (w.rejection? g).toList ++ rest.ended.log⟩, rest.tree⟩

variable {g : Formatting}

theorem formatted_eq (g : Formatting) (path : FilePath) (kind : ArtifactKind) (s : List Char) :
    formatted (g.formatters.get kind) path s =
      ⟨.ok (Writing.ofText g path kind s).text,
        ((Writing.ofText g path kind s).rejection? g).toList⟩ := by
  rw [Formatting.get_formatters]
  unfold formatted Writing.rejection? Writing.ofText
  dsimp only
  cases g kind s <;> rfl

theorem writeArtifact_eq (g : Formatting) (a : Artifact) (t : FileTree) :
    writeArtifact g.formatters a t =
      match a.text with
      | .error e => (Traced.fail e, t)
      | .ok s =>
        let w := Writing.ofText g a.path a.kind s
        let call := t.atomicWrite (fun _ => false) w.path (Text.encode w.text)
        (⟨call.result.map fun _ => w.path, (w.rejection? g).toList⟩, call.last t) := by
  simp only [writeArtifact, FileAction.bind_eq, FileAction.pure_eq]
  cases a.text with
  | error e => rfl
  | ok s =>
    rw [lift_ok_bind, formatted_eq]
    dsimp only [FileAction.bind, FileAction.lift, FileAction.write, FileAction.pure, Traced.pure,
      Writing.ofText]
    generalize t.atomicWrite (fun _ => false) a.path _ = call
    obtain ⟨trees, r⟩ := call
    cases r <;> simp [Except.map]

/-- Taking the steps is the run, without the calls that it keeps. -/
theorem perform_eq_run (g : Formatting) (steps : List Step) (t : FileTree) :
    perform g.formatters steps t = ((run g steps t).ended, (run g steps t).tree) := by
  induction steps generalizing t with
  | nil => rfl
  | cons step steps ih =>
    cases step with
    | fault e => rfl
    | makeDirs p =>
      simp only [perform, run, FileAction.bind, FileAction.makeDirs]
      obtain ⟨r, u⟩ := t.makeDirs p
      cases r with
      | error e => rfl
      | ok _ => simp [ih]
    | artifact a =>
      simp only [perform, run, FileAction.bind, writeArtifact_eq]
      cases a.text with
      | error e => rfl
      | ok s =>
        dsimp only
        generalize t.atomicWrite (fun _ => false) _ _ = call
        obtain ⟨trees, r⟩ := call
        cases r with
        | error e => rfl
        | ok _ =>
          simp only [Except.map, ih, FileAction.pure, Traced.pure]
          obtain ⟨writes, ⟨r, log⟩, tree⟩ := run g steps _
          cases r <;> simp

def emission (renderer : Renderer) (g : Formatting) (texts : Slots String) (out : FilePath)
    (c : Client) (t : FileTree) : Run := run g (script renderer texts out c) t

theorem emit_eq_emission (renderer : Renderer) (g : Formatting) (texts : Slots String)
    (out : FilePath) (c : Client) (t : FileTree) :
    let r := emission renderer g texts out c t
    emit renderer g.formatters texts out c t = (r.ended, r.tree) := by
  intro r
  rw [emit_eq_perform, perform_eq_run]
  rfl

/-! ## What a run keeps -/

theorem text_of_run {steps : List Step} {t : FileTree} :
    ∀ w ∈ (run g steps t).writes, w.text = (g w.kind w.plain).toOption.getD w.plain := by
  induction steps generalizing t with
  | nil => nofun
  | cons step steps ih =>
    cases step with
    | fault e => nofun
    | makeDirs p =>
      rw [run]
      split
      · exact ih
      · nofun
    | artifact a =>
      rw [run]
      cases a.text with
      | error e => nofun
      | ok s =>
        dsimp only
        split
        · exact List.forall_mem_singleton.mpr rfl
        · exact List.forall_mem_cons.mpr ⟨rfl, ih⟩

theorem log_of_run (steps : List Step) (t : FileTree) :
    (run g steps t).ended.log = (run g steps t).writes.filterMap (Writing.rejection? g) := by
  induction steps generalizing t with
  | nil => rfl
  | cons step steps ih =>
    cases step with
    | fault e => rfl
    | makeDirs p =>
      rw [run]
      split
      · exact ih _
      · rfl
    | artifact a =>
      rw [run]
      cases a.text with
      | error e => rfl
      | ok s =>
        dsimp only
        split
        · rw [List.filterMap_cons]
          cases Writing.rejection? g _ <;> rfl
        · rw [List.filterMap_cons, ih]
          cases Writing.rejection? g _ <;> rfl

/-- The artifacts among some steps: where they go, and by which formatter. -/
def Step.layout : List Step → List (FilePath × ArtifactKind)
  | [] => []
  | .artifact a :: steps => (a.path, a.kind) :: layout steps
  | _ :: steps => layout steps

/-- What is written are artifacts in their order, and all of them if nothing fails. -/
theorem layout_of_run (steps : List Step) (t : FileTree) :
    (run g steps t).writes.map (fun w => (w.path, w.kind)) <+: Step.layout steps ∧
      ∀ ps, (run g steps t).ended.result = .ok ps →
        (run g steps t).writes.map (fun w => (w.path, w.kind)) = Step.layout steps ∧
          ps = (Step.layout steps).map Prod.fst := by
  induction steps generalizing t with
  | nil => exact ⟨List.prefix_refl _, fun ps h => ⟨rfl, (Except.ok.inj h).symm⟩⟩
  | cons step steps ih =>
    cases step with
    | fault e => exact ⟨List.nil_prefix, nofun⟩
    | makeDirs p =>
      rw [run]
      split
      · exact ih _
      · exact ⟨List.nil_prefix, nofun⟩
    | artifact a =>
      rw [run]
      cases a.text with
      | error e => exact ⟨List.nil_prefix, nofun⟩
      | ok s =>
        dsimp only
        split
        · exact ⟨List.cons_prefix_cons.mpr ⟨rfl, List.nil_prefix⟩, nofun⟩
        · obtain ⟨hbefore, hall⟩ := ih (t := _)
          refine ⟨List.cons_prefix_cons.mpr ⟨rfl, hbefore⟩, fun ps h => ?_⟩
          obtain ⟨qs, hqs, rfl⟩ := map_eq_ok.mp h
          obtain ⟨hwrites, rfl⟩ := hall qs hqs
          exact ⟨by rw [List.map_cons, hwrites, Step.layout]; rfl, rfl⟩

/-- Two runs that call the same writes, of the same texts before formatting, that end alike and leave
the same files, whatever is in them. -/
structure Run.Parallel (r r' : Run) : Prop where
  result : r.ended.result = r'.ended.result
  writes : r.writes.map Writing.unformatted = r'.writes.map Writing.unformatted
  tree : r.tree.outline = r'.tree.outline

/-- The induction is on the steps; each call ends alike on trees with one outline. -/
theorem run_parallel (g h : Formatting) (steps : List Step) {t u : FileTree}
    (htree : t.outline = u.outline) : (run g steps t).Parallel (run h steps u) := by
  induction steps generalizing t u with
  | nil => exact ⟨rfl, rfl, htree⟩
  | cons step steps ih =>
    cases step with
    | fault e => exact ⟨rfl, rfl, htree⟩
    | makeDirs p =>
      obtain ⟨hresult, hmade⟩ := FileTree.makeDirs_alike htree p
      rw [run, run]
      generalize t.makeDirs p = made, u.makeDirs p = made' at hresult hmade ⊢
      obtain ⟨r, t'⟩ := made
      obtain ⟨r', u'⟩ := made'
      obtain rfl : r = r' := hresult
      cases r with
      | error e => exact ⟨rfl, rfl, hmade⟩
      | ok _ => exact ih hmade
    | artifact a =>
      rw [run, run]
      cases a.text with
      | error e => exact ⟨rfl, rfl, htree⟩
      | ok s =>
        obtain ⟨hresult, hlast⟩ := FileTree.atomicWrite_alike htree (fun _ => false) a.path
          (Text.encode (Writing.ofText g a.path a.kind s).text)
          (Text.encode (Writing.ofText h a.path a.kind s).text)
        dsimp only [Writing.ofText] at hresult hlast ⊢
        rw [← hresult]
        split
        · exact ⟨rfl, rfl, hlast⟩
        · obtain ⟨hended, hwrites, htrees⟩ := ih hlast
          refine ⟨?_, ?_, htrees⟩
          · dsimp only
            rw [hended]
          · simp only [List.map_cons, hwrites, Writing.unformatted]

/-- Where the files of a client go, in order, and by which formatter. -/
def layout (out : FilePath) (c : Client) : List (FilePath × ArtifactKind) :=
  (typesPath out, .code) :: c.modules.map (fun m => (modulePath out m, .code)) ++
    [(manifestPath out, .json), (docsPath out, .json)]

theorem map_fst_layout (out : FilePath) (c : Client) :
    (layout out c).map Prod.fst = paths out c := by
  simp [layout, paths]

theorem layout_artifacts (as : List Artifact) :
    Step.layout (as.map .artifact) = as.map fun a => (a.path, a.kind) := by
  induction as with
  | nil => rfl
  | cons a as ih => rw [List.map_cons, Step.layout, ih, List.map_cons]

theorem layout_script {renderer : Renderer} {texts : Slots String}
    {render : ApiModule → Except Fault (List Char)} (h : renderer.modules texts = .ok render)
    (out : FilePath) (c : Client) : Step.layout (script renderer texts out c) = layout out c := by
  rw [script, h]
  show _ :: Step.layout ((laterArtifacts render out c).map .artifact) = _
  rw [layout_artifacts, laterArtifacts, List.map_append, List.map_map]
  rfl

theorem emission_of_unread {renderer : Renderer} {texts : Slots String} {e : Fault}
    (h : renderer.modules texts = .error e) (g : Formatting) (out : FilePath) (c : Client)
    (t : FileTree) :
    let r := emission renderer g texts out c t
    r.writes = [] ∧ ∀ ps, r.ended.result ≠ .ok ps := by
  intro r
  unfold r
  rw [emission, script, h, run]
  split
  · exact ⟨rfl, nofun⟩
  · exact ⟨rfl, nofun⟩

theorem layout_of_emission (renderer : Renderer) (g : Formatting) (texts : Slots String)
    (out : FilePath) (c : Client) (t : FileTree) :
    let r := emission renderer g texts out c t
    r.writes.map (fun w => (w.path, w.kind)) <+: layout out c ∧
      ∀ ps, r.ended.result = .ok ps →
        r.writes.map (fun w => (w.path, w.kind)) = layout out c ∧ ps = paths out c := by
  intro r
  cases hrender : renderer.modules texts with
  | error e =>
    obtain ⟨hwrites, hended⟩ := emission_of_unread hrender g out c t
    have hwrites : r.writes = [] := hwrites
    rw [hwrites]
    exact ⟨List.nil_prefix, fun ps hps => absurd hps (hended ps)⟩
  | ok render =>
    obtain ⟨hbefore, hall⟩ := layout_of_run (g := g) (script renderer texts out c) t
    rw [layout_script hrender] at hbefore hall
    refine ⟨hbefore, ?_⟩
    intro ps hps
    obtain ⟨hwrites, hpaths⟩ := hall ps hps
    exact ⟨hwrites, hpaths.trans (map_fst_layout out c)⟩

/-- What an emission with some formatters has in common with one that leaves all texts as they are,
and what differs. -/
structure Spared (g : Formatting) (out : FilePath) (c : Client) (r r' : Run) : Prop where
  parallel : r.Parallel r'
  returned : ∀ ps, r.ended.result = .ok ps → ps = paths out c ∧ r.writes.map Writing.path = ps
  layout : r.writes.map (fun w => (w.path, w.kind)) <+: layout out c
  texts : ∀ w ∈ r.writes, (∀ s, g w.kind w.plain = .ok s → w.text = s) ∧
    ∀ reason, g w.kind w.plain = .error reason → w.text = w.plain
  unformatted : ∀ w ∈ r'.writes, w.text = w.plain
  log : r.ended.log.map (fun d => (d.level, d.message)) = r.writes.filterMap fun w =>
    match g w.kind w.plain with
    | .ok _ => none
    | .error reason => some (.error, s!"format error: {w.path.text}: {reason}")
  silent : r'.ended.log = []

end Emission

open Emission

/-- Whatever renders, with any formatters an emission calls the same writes in the same order as
without formatting, and ends alike. Each text is the formatted one, or the text itself where it is
rejected; what is rejected is logged in the order of writing, and nothing else is. Code goes through
the one formatter and data through the other. -/
theorem emit_spares (renderer : Renderer) (g : Formatting) (texts : Slots String) (out : FilePath)
    (c : Client) (t : FileTree) :
    let r := emission renderer g texts out c t
    let r' := emission renderer .plain texts out c t
    emit renderer g.formatters texts out c t = (r.ended, r.tree) ∧
      emit renderer Formatting.plain.formatters texts out c t = (r'.ended, r'.tree) ∧
      Spared g out c r r' := by
  intro r r'
  obtain ⟨hbefore, hall⟩ := layout_of_emission renderer g texts out c t
  refine ⟨emit_eq_emission renderer g texts out c t, emit_eq_emission renderer .plain texts out c t,
    run_parallel g .plain _ rfl, ?_, hbefore, ?_, ?_, ?_, ?_⟩
  · intro ps hps
    obtain ⟨hwrites, rfl⟩ := hall ps hps
    have hpaths := congrArg (List.map Prod.fst) hwrites
    rw [map_fst_layout, List.map_map] at hpaths
    exact ⟨rfl, hpaths⟩
  · intro w hw
    have htext := text_of_run w hw
    constructor
    · intro s hs
      rw [htext, hs]
      rfl
    · intro reason hreason
      rw [htext, hreason]
      rfl
  · intro w hw
    rw [text_of_run w hw]
    rfl
  · have hlog : r.ended.log = _ := log_of_run (script renderer texts out c) t
    rw [hlog, List.map_filterMap]
    congr 1
    funext w
    unfold Writing.rejection?
    cases g w.kind w.plain <;> rfl
  · have hlog : r'.ended.log = _ := log_of_run (script renderer texts out c) t
    rw [hlog]
    exact List.filterMap_eq_nil_iff.mpr fun _ _ => rfl

end ClientCompiler
