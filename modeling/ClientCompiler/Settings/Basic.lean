import ClientCompiler.Client.Validation

/-!
The settings of a run: where the document is, where the client goes, and templates that take the
place of the packaged ones.
-/

namespace ClientCompiler

/-- The parts of a module's text. The wrapper puts the other three together. -/
inductive Slot where
  | header
  | body
  | footer
  | wrapper
  deriving DecidableEq, Repr

def Slot.name : Slot → String
  | .header => "header"
  | .body => "body"
  | .footer => "footer"
  | .wrapper => "wrapper"

structure Slots (α : Type) where
  header : α
  body : α
  footer : α
  wrapper : α
  deriving DecidableEq, Repr

namespace Slots

variable {α β : Type}

def get (s : Slots α) : Slot → α
  | .header => s.header
  | .body => s.body
  | .footer => s.footer
  | .wrapper => s.wrapper

def traverse (f : Slot → α → Except Fault β) (s : Slots α) : Except Fault (Slots β) := do
  return ⟨← f .header s.header, ← f .body s.body, ← f .footer s.footer, ← f .wrapper s.wrapper⟩

def map₂ {γ : Type} (f : α → β → γ) (s : Slots α) (t : Slots β) : Slots γ :=
  ⟨f s.header t.header, f s.body t.body, f s.footer t.footer, f s.wrapper t.wrapper⟩

end Slots

structure Settings where
  url : Option String
  dir : String
  templates : Slots (Option String)
  deriving DecidableEq, Repr

namespace Settings

def noTemplates : Slots (Option String) := ⟨none, none, none, none⟩

def default : Settings := ⟨none, ".specgen", noTemplates⟩

end Settings

namespace Validation

open Checked

def templates (v : Value) : Checked (Slots (Option String)) :=
  (record v).bind fun kvs =>
    also (also (also (also (.ok Slots.mk) (withDefault "header" none optionalText kvs))
      (withDefault "body" none optionalText kvs)) (withDefault "footer" none optionalText kvs))
      (withDefault "wrapper" none optionalText kvs)

def settings (v : Value) : Checked Settings :=
  (record v).bind fun kvs =>
    also (also (also (.ok Settings.mk) (withDefault "url" none optionalText kvs))
      (withDefault "dir" Settings.default.dir text kvs))
      (withDefault (writtenName "moduleTemplate" "module_template" kvs) Settings.noTemplates templates kvs)

end Validation
end ClientCompiler
