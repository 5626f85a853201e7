import ClientCompiler.Emission.Emit
import ClientCompiler.Proofs.Files.Writing

/-!
What an emission writes does not depend on where it writes. The texts of all files are made from the
client, the templates and the formatters alone; after that an emission only calls the file system.
-/

namespace ClientCompiler

namespace FileAction

variable {α β γ : Type}

/-- How an action ends and what tree it leaves, whatever it logs. -/
def outcome (x : FileAction α) (t : FileTree) : Except Fault α × FileTree :=
  ((x t).1.result, (x t).2)

def Same (x y : FileAction α) : Prop := ∀ t, outcome x t = outcome y t

variable {x y : FileAction α} {f g : α → FileAction β} {t t' : FileTree}

theorem outcome_bind (x : FileAction α) (f : α → FileAction β) (t : FileTree) :
    outcome (x.bind f) t =
      match outcome x t with
      | (.ok a, t') => outcome (f a) t'
      | (.error e, t') => (.error e, t') := by
  unfold outcome bind
  obtain ⟨⟨r, log⟩, t'⟩ := x t
  cases r <;> rfl

theorem outcome_bind_eq_ok {b : β} :
    outcome (x.bind f) t = (.ok b, t') ↔
      ∃ a u, outcome x t = (.ok a, u) ∧ outcome (f a) u = (.ok b, t') := by
  rw [outcome_bind]
  obtain ⟨r, u⟩ := outcome x t
  cases r <;> simp

theorem outcome_lift (x : Traced α) (t : FileTree) : outcome (lift x) t = (x.result, t) := rfl

theorem outcome_pure (a : α) (t : FileTree) : outcome (pure a) t = (.ok a, t) := rfl

theorem outcome_eq_ok {a : α} :
    outcome x t = (.ok a, t') ↔ ∃ log, x t = (⟨.ok a, log⟩, t') := by
  unfold outcome
  obtain ⟨⟨r, log⟩, u⟩ := x t
  simp

theorem bind_assoc (x : FileAction α) (f : α → FileAction β) (g : β → FileAction γ) :
    (x.bind f).bind g = x.bind fun a => (f a).bind g := by
  funext t
  unfold bind
  obtain ⟨⟨r, log⟩, t'⟩ := x t
  cases r with
  | error e => rfl
  | ok a =>
    dsimp only
    obtain ⟨⟨r, log'⟩, t''⟩ := f a t'
    cases r with
    | error e => rfl
    | ok b => simp [List.append_assoc]

theorem Same.rfl : Same x x := fun _ => Eq.refl _

theorem Same.trans {z : FileAction α} (h : Same x y) (h' : Same y z) : Same x z :=
  fun t => (h t).trans (h' t)

theorem Same.bind (hx : Same x y) (hf : ∀ a, Same (f a) (g a)) : Same (x.bind f) (y.bind g) := by
  intro t
  rw [outcome_bind, outcome_bind, hx t]
  obtain ⟨r, u⟩ := outcome y t
  cases r with
  | error e => exact Eq.refl _
  | ok a => exact hf a u

theorem same_lift_bind {x : Traced α} {a : α} (h : x.result = .ok a) :
    Same ((lift x).bind f) (f a) := by
  intro t
  rw [outcome_bind, outcome_lift, h]

def FailsWithin (p : Fault → Prop) (x : FileAction α) : Prop := ∀ t, FailsOnly p (outcome x t).1

namespace FailsWithin

variable {p : Fault → Prop}

theorem pure (a : α) : FailsWithin p (FileAction.pure a) := fun _ => .ok a

theorem lift {x : Traced α} (h : FailsOnly p x.result) : FailsWithin p (FileAction.lift x) :=
  fun _ => h

theorem bind (hx : FailsWithin p x) (hf : ∀ a, FailsWithin p (f a)) : FailsWithin p (x.bind f) := by
  intro t
  rw [outcome_bind]
  have hx := hx t
  generalize outcome x t = o at hx
  obtain ⟨r, u⟩ := o
  cases r with
  | error e => exact .error (hx e (Eq.refl _))
  | ok a => exact hf a u

theorem lift_bind {x : Traced α} (hx : FailsOnly p x.result)
    (hf : ∀ a, x.result = .ok a → FailsWithin p (f a)) :
    FailsWithin p ((FileAction.lift x).bind f) := by
  intro t
  rw [outcome_bind, outcome_lift]
  cases hresult : x.result with
  | error e => exact .error (hx e hresult)
  | ok a => exact hf a hresult t

theorem each (hf : ∀ a, FailsWithin p (f a)) : ∀ as : List α, FailsWithin p (FileAction.each f as)
  | [] => pure []
  | a :: as => (hf a).bind fun b => (each hf as).bind fun bs => pure (b :: bs)

end FailsWithin

end FileAction

open FileAction

namespace Emission

/-- The texts of an emission; modules come with the names of their files. -/
structure Contents where
  types : List Char
  modules : List (String × List Char)
  manifest : List Char
  docs : List Char
  deriving DecidableEq

/-- The text that is written for a text: the formatted one unless it was rejected. -/
def settled (f : Formatter) (s : List Char) : Except Fault (List Char) :=
  match (f s).result with
  | .error (.format _) => .ok s
  | r => r

def moduleFile (m : ApiModule) : String := FileName.ofModule m.name ++ ".ts"

def moduleContent (f : Formatters) (render : ApiModule → Except Fault (List Char)) (m : ApiModule) :
    Except Fault (String × List Char) := do
  let s ← render m >>= settled f.code
  return (moduleFile m, s)

def contents (r : Renderer) (f : Formatters) (texts : Slots String) (c : Client) :
    Except Fault Contents := do
  let render ← r.modules texts
  let types ← Render.typesText r.chance c.models >>= settled f.code
  let modules ← c.modules.mapM (moduleContent f render)
  let manifest ← Formatter.jsonText c.manifest >>= settled f.json
  let docs ← Formatter.jsonText (.map c.source) >>= settled f.json
  return ⟨types, modules, manifest, docs⟩

def publish (out : FilePath) (k : Contents) : FileAction Unit := do
  FileAction.makeDirs out
  FileAction.write (typesPath out) k.types
  FileAction.makeDirs (modulesDir out)
  let _ ← FileAction.each (fun m => FileAction.write ((modulesDir out).child m.1) m.2) k.modules
  FileAction.write (manifestPath out) k.manifest
  FileAction.write (docsPath out) k.docs

/-- Where the files of a client are, in the order of writing. -/
def paths (out : FilePath) (c : Client) : List FilePath :=
  typesPath out :: c.modules.map (modulePath out) ++ [manifestPath out, docsPath out]

variable {r : Renderer} {f : Formatters} {texts : Slots String}
  {render : ApiModule → Except Fault (List Char)} {out : FilePath} {c : Client} {k : Contents}
  {t t' : FileTree}

theorem contents_eq_ok :
    contents r f texts c = .ok k ↔ ∃ render, r.modules texts = .ok render ∧
      Render.typesText r.chance c.models >>= settled f.code = .ok k.types ∧
      c.modules.mapM (moduleContent f render) = .ok k.modules ∧
      Formatter.jsonText c.manifest >>= settled f.json = .ok k.manifest ∧
      Formatter.jsonText (.map c.source) >>= settled f.json = .ok k.docs := by
  unfold contents
  rw [bind_eq_ok]
  refine exists_congr fun render => and_congr_right fun _ => ?_
  rw [bind_eq_ok]
  constructor
  · rintro ⟨types, htypes, h⟩
    obtain ⟨modules, hmodules, h⟩ := bind_eq_ok.mp h
    obtain ⟨manifest, hmanifest, h⟩ := bind_eq_ok.mp h
    obtain ⟨docs, hdocs, h⟩ := bind_eq_ok.mp h
    obtain rfl := pure_eq_ok.mp h
    exact ⟨htypes, hmodules, hmanifest, hdocs⟩
  · rintro ⟨htypes, hmodules, hmanifest, hdocs⟩
    refine ⟨_, htypes, ?_⟩
    rw [hmodules, hmanifest, hdocs]
    rfl

theorem result_formatted (f : Formatter) (path : FilePath) (s : List Char) :
    (formatted f path s).result = settled f s := by
  unfold formatted settled
  obtain ⟨r, log⟩ := f s
  cases r with
  | ok s => rfl
  | error e => cases e <;> rfl

theorem settle_code (f : Formatters) : settled (f.get .code) = settled f.code := rfl

theorem text_typesArtifact (chance : Template.Chance) (out : FilePath) (c : Client) :
    (typesArtifact chance out c).text = Render.typesText chance c.models := by
  rw [typesArtifact]

section Writing

variable {α : Type}

theorem same_writeArtifact (a : Artifact) {s : List Char}
    (h : a.text >>= settled (f.get a.kind) = .ok s) (g : FilePath → FileAction α) :
    Same ((writeArtifact f a).bind g) ((FileAction.write a.path s).bind fun _ => g a.path) := by
  obtain ⟨text, htext, hsettled⟩ := bind_eq_ok.mp h
  simp only [writeArtifact, bind_eq, FileAction.bind_assoc, pure_eq, pure_bind]
  refine (same_lift_bind htext).trans ?_
  refine (same_lift_bind ?_).trans .rfl
  rw [result_formatted, hsettled]

theorem settled_of_writeArtifact {a : Artifact} {path : FilePath}
    (h : outcome (writeArtifact f a) t = (.ok path, t')) :
    ∃ s, a.text >>= settled (f.get a.kind) = .ok s := by
  simp only [writeArtifact, bind_eq] at h
  obtain ⟨text, _, htext, h⟩ := outcome_bind_eq_ok.mp h
  obtain ⟨s, _, hs, -⟩ := outcome_bind_eq_ok.mp h
  have htext : a.text = .ok text := (Prod.mk.inj htext).1
  refine ⟨s, bind_eq_ok.mpr ⟨text, htext, ?_⟩⟩
  rw [← result_formatted (f.get a.kind) a.path]
  exact (Prod.mk.inj hs).1

theorem same_writeModules {ms : List ApiModule} {ks : List (String × List Char)}
    (h : ms.mapM (moduleContent f render) = .ok ks) (g : List FilePath → FileAction α) :
    Same ((FileAction.each (fun m => writeArtifact f (moduleArtifact out render m)) ms).bind g)
      ((FileAction.each (fun m => FileAction.write ((modulesDir out).child m.1) m.2) ks).bind
        fun _ => g (ms.map (modulePath out))) := by
  have hforall := mapM_eq_ok.mp h
  clear h
  induction hforall generalizing g with
  | nil => exact .rfl
  | @cons m k ms ks hk _ ih =>
    obtain ⟨s, hs, hk⟩ := bind_eq_ok.mp hk
    obtain rfl := pure_eq_ok.mp hk
    simp only [FileAction.each, FileAction.bind_assoc, pure_bind, List.map_cons]
    refine (same_writeArtifact _ hs _).trans (.bind .rfl fun _ => ?_)
    exact ih fun paths => g (modulePath out m :: paths)

theorem contents_of_writeModules {ms : List ApiModule} {paths : List FilePath} :
    ∀ {t : FileTree},
      outcome (FileAction.each (fun m => writeArtifact f (moduleArtifact out render m)) ms) t =
        (.ok paths, t') →
      ∃ ks, ms.mapM (moduleContent f render) = .ok ks := by
  induction ms generalizing paths t' with
  | nil => exact fun _ => ⟨[], rfl⟩
  | cons m ms ih =>
    intro t h
    obtain ⟨path, u, hwrite, h⟩ := outcome_bind_eq_ok.mp h
    obtain ⟨rest, v, hrest, -⟩ := outcome_bind_eq_ok.mp h
    obtain ⟨s, hs⟩ := settled_of_writeArtifact hwrite
    obtain ⟨ks, hks⟩ := ih hrest
    refine ⟨(moduleFile m, s) :: ks, mapM_cons_eq_ok.mpr ⟨_, _, ?_, hks, rfl⟩⟩
    exact bind_eq_ok.mpr ⟨s, hs, rfl⟩

end Writing

/-- With the texts made, an emission is its calls. -/
theorem same_emit (h : contents r f texts c = .ok k) (out : FilePath) :
    Same (emit r f texts out c) ((publish out k).bind fun _ => FileAction.pure (paths out c)) := by
  obtain ⟨render, hrender, htypes, hmodules, hmanifest, hdocs⟩ := contents_eq_ok.mp h
  rw [← settle_code, ← text_typesArtifact r.chance out] at htypes
  simp only [emit, publish, bind_eq, FileAction.bind_assoc, pure_eq]
  refine .bind .rfl fun _ => ?_
  refine (same_lift_bind hrender).trans ?_
  refine (same_writeArtifact (typesArtifact r.chance out c) htypes _).trans (.bind .rfl fun _ => ?_)
  refine .bind .rfl fun _ => ?_
  refine (same_writeModules hmodules _).trans (.bind .rfl fun _ => ?_)
  refine (same_writeArtifact (manifestArtifact out c) hmanifest _).trans (.bind .rfl fun _ => ?_)
  exact same_writeArtifact (docsArtifact out c) hdocs _

theorem contents_of_emit {ps : List FilePath} (h : outcome (emit r f texts out c) t = (.ok ps, t')) :
    ∃ k, contents r f texts c = .ok k := by
  simp only [emit, bind_eq] at h
  obtain ⟨_, t₁, -, h⟩ := outcome_bind_eq_ok.mp h
  obtain ⟨render, t₂, hrender, h⟩ := outcome_bind_eq_ok.mp h
  obtain ⟨types, t₃, htypes, h⟩ := outcome_bind_eq_ok.mp h
  obtain ⟨_, t₄, -, h⟩ := outcome_bind_eq_ok.mp h
  obtain ⟨modules, t₅, hmodules, h⟩ := outcome_bind_eq_ok.mp h
  obtain ⟨manifest, t₆, hmanifest, h⟩ := outcome_bind_eq_ok.mp h
  obtain ⟨docs, t₇, hdocs, -⟩ := outcome_bind_eq_ok.mp h
  have hrender : r.modules texts = .ok render := (Prod.mk.inj hrender).1
  obtain ⟨typesText, htypes⟩ := settled_of_writeArtifact htypes
  rw [text_typesArtifact] at htypes
  obtain ⟨ks, hks⟩ := contents_of_writeModules hmodules
  obtain ⟨manifestText, hmanifest⟩ := settled_of_writeArtifact hmanifest
  obtain ⟨docsText, hdocs⟩ := settled_of_writeArtifact hdocs
  exact ⟨⟨typesText, ks, manifestText, docsText⟩,
    contents_eq_ok.mpr ⟨render, hrender, htypes, hks, hmanifest, hdocs⟩⟩

theorem publish_of_emit {ps : List FilePath} (h : outcome (emit r f texts out c) t = (.ok ps, t')) :
    ps = paths out c ∧ ∃ k, contents r f texts c = .ok k ∧
      outcome (publish out k) t = (.ok (), t') := by
  obtain ⟨k, hk⟩ := contents_of_emit h
  rw [same_emit hk out t] at h
  obtain ⟨_, u, hpublish, hpaths⟩ := outcome_bind_eq_ok.mp h
  rw [outcome_pure, Prod.mk.injEq] at hpaths
  obtain ⟨hpaths, rfl⟩ := hpaths
  exact ⟨(Except.ok.inj hpaths).symm, k, hk, hpublish⟩

end Emission
end ClientCompiler
