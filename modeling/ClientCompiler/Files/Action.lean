import ClientCompiler.Files.AtomicWrite
import ClientCompiler.Traced

/-!
Actions on a tree of files. An action may fail; what it logged and what it did before stays.
-/

namespace ClientCompiler

def FileAction (α : Type) : Type := FileTree → Traced α × FileTree

namespace FileAction

variable {α β : Type}

def pure (a : α) : FileAction α := fun t => (Traced.pure a, t)

def bind (x : FileAction α) (f : α → FileAction β) : FileAction β := fun t =>
  match x t with
  | (⟨.ok a, log⟩, t') => (⟨(f a t').1.result, log ++ (f a t').1.log⟩, (f a t').2)
  | (⟨.error e, log⟩, t') => (⟨.error e, log⟩, t')

instance : Monad FileAction where
  pure := FileAction.pure
  bind := FileAction.bind

def lift (x : Traced α) : FileAction α := fun t => (x, t)

instance : MonadLift Traced FileAction := ⟨lift⟩

def each (f : α → FileAction β) : List α → FileAction (List β)
  | [] => pure []
  | a :: as => bind (f a) fun b => bind (each f as) fun bs => pure (b :: bs)

def makeDirs (p : FilePath) : FileAction Unit := fun t =>
  ((⟨(t.makeDirs p).1, []⟩ : Traced Unit), (t.makeDirs p).2)

/-- Writes a file, where no call fails of itself. -/
def write (p : FilePath) (s : List Char) : FileAction Unit := fun t =>
  let run := t.atomicWrite (fun _ => false) p (Text.encode s)
  ((⟨run.result, []⟩ : Traced Unit), run.last t)

@[simp] theorem bind_eq (x : FileAction α) (f : α → FileAction β) : x >>= f = x.bind f := rfl

@[simp] theorem pure_eq (a : α) : (Pure.pure a : FileAction α) = FileAction.pure a := rfl

@[simp] theorem lift_apply (x : Traced α) (t : FileTree) : lift x t = (x, t) := rfl

@[simp] theorem pure_bind (a : α) (f : α → FileAction β) : (pure a).bind f = f a := by
  funext t
  simp [pure, bind, Traced.pure]

@[simp] theorem bind_pure (x : FileAction α) : x.bind pure = x := by
  funext t
  cases hx : x t with
  | mk r t' =>
    obtain ⟨r, log⟩ := r
    cases r <;> simp [bind, hx, pure, Traced.pure]

end FileAction
end ClientCompiler
