import ClientCompiler.Proofs.Emission.Publishing

/-!
What the writing of a client can fail with. The document is there by then, so that no fault of an
emission is a fault of obtaining it.
-/

namespace ClientCompiler

open Template FileAction

def Fault.ofDocument : Fault → Bool
  | .urlMissing => true
  | .retrieval _ => true
  | _ => false

/-- A computation that does not fail for want of the document. -/
abbrev Late {α : Type} (x : Except Fault α) : Prop := FailsOnly (·.ofDocument = false) x

theorem late_of_refusal {f : Fault} (h : f.isRefusal = true) : f.ofDocument = false := by
  cases f <;> first | rfl | cases h

/-! ## Texts -/

namespace Render

/-- What is told of a rendering that failed is a fault of its values, or else one that is given. -/
theorem late_mapError {α : Type} (x : Rendering α) {e : Fault} (he : e.ofDocument = false) :
    Late (x.mapError fun f => f.ofValue?.getD e) := by
  cases x with
  | ok a => exact .ok a
  | error f =>
    refine .error ?_
    cases f with
    | template => exact he
    | _ => rfl

theorem late_typesText (chance : Chance) (models : List Model) : Late (typesText chance models) := by
  unfold typesText writeOut
  exact late_mapError _ rfl

theorem late_traverse {α β : Type} {f : Slot → α → Except Fault β} (hf : ∀ slot a, Late (f slot a))
    (s : Slots α) : Late (s.traverse f) := by
  refine (hf .header s.header).bind fun header => (hf .body s.body).bind fun body => ?_
  exact (hf .footer s.footer).bind fun footer => (hf .wrapper s.wrapper).bind fun wrapper => .ok _

theorem late_readTemplates (texts : Slots String) : Late (readTemplates texts) :=
  late_traverse (fun _ _ => late_mapError _ rfl) texts

theorem late_moduleText (chance : Chance) (templates : ModuleTemplates) (m : ApiModule) :
    Late (moduleText chance templates m) := by
  have hslot (slot : Slot) (names : Names) : Late (slotText chance templates slot names) :=
    late_mapError _ rfl
  refine (hslot .header _).bind fun header => (hslot .body _).bind fun body => ?_
  exact (hslot .footer _).bind fun footer => hslot .wrapper _

end Render

namespace Formatter

theorem late_jsonText (v : Value) : Late (jsonText v) := by
  unfold jsonText
  split
  · exact .ok _
  · next e _ => cases e <;> exact .error rfl

theorem late_json (s : List Char) : Late (json s).result := by
  change Late (formatJson s)
  unfold formatJson
  split
  · exact (late_jsonText _).map _
  · exact .error rfl
  · exact .error rfl

end Formatter

theorem Prettier.late_formatter (w : Prettier) (s : List Char) : Late (w.formatter s).result := by
  cases w with
  | absent => exact .ok s
  | unstartable reason => exact .error rfl
  | present reply =>
    change Late (readReply (reply s))
    unfold readReply
    split
    · exact .ok _
    · exact .error rfl

/-! ## Actions -/

abbrev LateAction {α : Type} (x : FileAction α) : Prop := FailsWithin (·.ofDocument = false) x

theorem late_of_refuses {α : Type} {x : FileAction α} (h : Emission.Refuses x) : LateAction x :=
  fun t => FailsOnly.mono (fun _ => late_of_refusal) (h t)

namespace Emission

variable {f : Formatters}

theorem late_writeArtifact (hf : ∀ kind s, Late ((f.get kind) s).result) {a : Artifact}
    (ha : Late a.text) : LateAction (writeArtifact f a) := by
  refine .bind (.lift ha) fun s => .bind (.lift ?_) fun s => ?_
  · rw [result_formatted]
    have hs := hf a.kind s
    unfold settled
    split
    · exact .ok s
    · exact hs
  · exact .bind (late_of_refuses (refuses_write _ _)) fun _ => .pure _

/-- An emission makes texts, formats them and calls the file system, and none of that asks for the
document. -/
theorem late_emit (chance : Chance) (w : Prettier) (texts : Slots String) (out : FilePath)
    (c : Client) :
    LateAction (emit (Render.renderer chance) ⟨w.formatter, Formatter.json⟩ texts out c) := by
  have hformatters (kind : ArtifactKind) (s : List Char) :
      Late (((⟨w.formatter, Formatter.json⟩ : Formatters).get kind) s).result := by
    cases kind with
    | code => exact w.late_formatter s
    | json => exact Formatter.late_json s
  have hdirs (p : FilePath) : LateAction (FileAction.makeDirs p) :=
    late_of_refuses (refuses_makeDirs p)
  have htypes : Late (typesArtifact chance out c).text := by
    rw [text_typesArtifact]
    exact Render.late_typesText chance c.models
  have hmodule {render : ApiModule → Except Fault (List Char)}
      (hrender : (Render.readTemplates texts).map (Render.moduleText chance) = .ok render)
      (m : ApiModule) :
      LateAction (writeArtifact ⟨w.formatter, Formatter.json⟩ (moduleArtifact out render m)) := by
    obtain ⟨templates, -, rfl⟩ := map_eq_ok.mp hrender
    exact late_writeArtifact hformatters (Render.late_moduleText chance templates m)
  refine (hdirs out).bind fun _ => ?_
  refine .lift_bind ((Render.late_readTemplates texts).map _) fun render hrender => ?_
  refine (late_writeArtifact hformatters htypes).bind fun types => ?_
  refine (hdirs _).bind fun _ => ?_
  refine .bind (.each (hmodule hrender) c.modules) fun modules => ?_
  refine (late_writeArtifact hformatters (Formatter.late_jsonText _)).bind fun manifest => ?_
  exact (late_writeArtifact hformatters (Formatter.late_jsonText _)).bind fun docs => .pure _

end Emission
end ClientCompiler
