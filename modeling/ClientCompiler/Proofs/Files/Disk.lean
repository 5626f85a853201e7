import ClientCompiler.Files.Disk
import ClientCompiler.Proofs.Failing
import ClientCompiler.Proofs.Returning

/-!
What readers of files get. A file is found, is not there, or the system refuses to say so; one that
is found has a text, no text in UTF-8, or octets that the system refuses.
-/

namespace ClientCompiler.Disk

variable {d : Disk} {p : FilePath} {f : SystemFault} {e : Fault} {octets : List UInt8}

/-- The system does not say whether there is a file at a path. -/
structure Refuses (d : Disk) (p : FilePath) (f : SystemFault) : Prop where
  null : p.holdsNull = false
  kind : d.kind p = .error f
  present : f.saysAbsent = false

/-- No text can be read from a path, for a reason that no call to the system gives. -/
inductive Unreadable (d : Disk) (p : FilePath) : Fault → Prop
  | null (h : p.holdsNull = true) : Unreadable d p .badValue
  | octets {octets : List UInt8} (h : d.read p = .ok octets)
      (hdecode : Text.decode? octets = none) : Unreadable d p .undecodable

theorem isFile_eq_error : d.isFile p = .error e ↔ ∃ f, d.Refuses p f ∧ e = .system f := by
  unfold isFile
  constructor
  · intro h
    split at h
    · cases h
    · next hnull =>
      split at h
      · cases h
      · next f hkind =>
        split at h
        · cases h
        · next hpresent =>
          exact ⟨f, ⟨by simpa using hnull, hkind, by simpa using hpresent⟩,
            (Except.error.inj h).symm⟩
  · rintro ⟨f, ⟨hnull, hkind, hpresent⟩, rfl⟩
    simp only [hnull, hkind, hpresent, Bool.false_eq_true, if_false]

theorem isFile_eq_true : d.isFile p = .ok true ↔ p.holdsNull = false ∧ d.kind p = .ok .file := by
  unfold isFile
  constructor
  · intro h
    split at h
    · cases h
    · next hnull =>
      split at h
      · next k hkind =>
        have hk : k = .file := of_decide_eq_true (Except.ok.inj h)
        exact ⟨by simpa using hnull, by rw [hkind, hk]⟩
      · split at h <;> cases h
  · rintro ⟨hnull, hkind⟩
    simp only [hnull, hkind, Bool.false_eq_true, if_false]
    rfl

theorem read_of_null (h : p.holdsNull = true) : d.read p = .error .badValue := by
  unfold read
  rw [if_pos h]

theorem read_of_plain (h : p.holdsNull = false) : d.read p = (d.octets p).mapError .system := by
  unfold read
  rw [if_neg (by simp [h])]

theorem readText_of_error (h : d.read p = .error e) : d.readText p = .error e := by
  unfold readText
  rw [h]
  rfl

theorem readText_of_undecodable (h : d.read p = .ok octets)
    (hdecode : Text.decode? octets = none) : d.readText p = .error .undecodable := by
  unfold readText
  rw [h]
  simp only [Bind.bind, Except.bind, hdecode]
  rfl

theorem readText_of_decoded {s : List Char} (h : d.read p = .ok octets)
    (hdecode : Text.decode? octets = some s) : d.readText p = .ok (Text.normalizeNewlines s) := by
  unfold readText
  rw [h]
  simp only [Bind.bind, Except.bind, hdecode]
  rfl

theorem readText_of_unreadable (h : d.Unreadable p e) : d.readText p = .error e := by
  cases h with
  | null h => exact readText_of_error (read_of_null h)
  | octets h hdecode => exact readText_of_undecodable h hdecode

theorem failsOnly_readText :
    FailsOnly (fun e => (∃ f, e = .system f) ∨ d.Unreadable p e) (d.readText p) := by
  cases hnull : p.holdsNull with
  | true =>
    rw [readText_of_error (read_of_null hnull)]
    exact .error (Or.inr (.null hnull))
  | false =>
    cases hread : d.read p with
    | error e =>
      rw [readText_of_error hread]
      rw [read_of_plain hnull] at hread
      cases hoctets : d.octets p with
      | ok octets =>
        rw [hoctets] at hread
        cases hread
      | error f =>
        rw [hoctets] at hread
        exact .error (Or.inl ⟨f, (Except.error.inj hread).symm⟩)
    | ok octets =>
      cases hdecode : Text.decode? octets with
      | none =>
        rw [readText_of_undecodable hread hdecode]
        exact .error (Or.inr (.octets hread hdecode))
      | some s =>
        rw [readText_of_decoded hread hdecode]
        exact .ok _

theorem Unreadable.class_eq_none (h : d.Unreadable p e) : e.class? = none := by
  cases h <;> rfl

theorem readText_cases (hfile : d.isFile p = .ok true) :
    (∃ s, d.readText p = .ok s) ∨ (∃ f, d.readText p = .error (.system f)) ∨
      ∃ octets, d.read p = .ok octets ∧ Text.decode? octets = none := by
  cases htext : d.readText p with
  | ok s => exact Or.inl ⟨s, rfl⟩
  | error e =>
    rcases failsOnly_readText e htext with ⟨f, rfl⟩ | hunreadable
    · exact Or.inr (Or.inl ⟨f, rfl⟩)
    · cases hunreadable with
      | null hnull =>
        rw [(isFile_eq_true.mp hfile).1] at hnull
        cases hnull
      | octets hread hdecode => exact Or.inr (Or.inr ⟨_, hread, hdecode⟩)

end ClientCompiler.Disk
