import DfaTable.Workspace
import Mathlib.Order.Defs.Unbundled

/-!
# DfaTable.Proofs.Workspace.Ends

What work comes to, told without the journal: `Ends` says of some work in a workspace which result
it has and which files it leaves. There is one rule for each way in which work is put together.
`Moves` is the frame: wherever the work starts from, it comes to an end, and the files before and
after stand in a relation that the parts of the work keep.
-/

namespace DfaTable

open Files

/-- The workspace with other files. -/
def Workspace.on (w : Workspace) (t : Tree) : Workspace := { w with files := t }

@[simp] theorem Workspace.files_on (w : Workspace) (t : Tree) : (w.on t).files = t := rfl

@[simp] theorem Workspace.home_on (w : Workspace) (t : Tree) : (w.on t).home = w.home := rfl

@[simp] theorem Workspace.on_on (w : Workspace) (t u : Tree) : (w.on t).on u = w.on u := rfl

@[simp] theorem Workspace.on_files (w : Workspace) : w.on w.files = w := rfl

namespace Work

variable {α β : Type} {w : Workspace} {t u : Tree}

/-- Whatever the journal is, some work has this result and leaves these files. -/
def Ends (m : Work α) (w : Workspace) (r : Except Fault α) (t : Tree) : Prop :=
  ∀ j, ∃ j', m.run.run { w with journal := j } = (r, { w with files := t, journal := j' })

theorem run_bind (m : Work α) (f : α → Work β) (w : Workspace) :
    (m >>= f).run.run w = match m.run.run w with
      | (.ok a, w') => (f a).run.run w'
      | (.error e, w') => (.error e, w') := by
  unfold ExceptT.run StateT.run
  simp only [bind, ExceptT.bind, ExceptT.mk, StateT.bind]
  rcases m w with ⟨_ | _, _⟩ <;> rfl

theorem run_tryCatch (m : Work α) (f : Fault → Work α) (w : Workspace) :
    (tryCatch m f).run.run w = match m.run.run w with
      | (.ok a, w') => (.ok a, w')
      | (.error e, w') => (f e).run.run w' := by
  unfold ExceptT.run StateT.run
  simp only [tryCatch, tryCatchThe, MonadExceptOf.tryCatch, ExceptT.tryCatch, ExceptT.mk, bind,
    StateT.bind]
  rcases m w with ⟨_ | _, _⟩ <;> rfl

namespace Ends

/-- Work has one result, and leaves the same files each time. -/
theorem unique {m : Work α} {r s : Except Fault α} (h : m.Ends w r t) (g : m.Ends w s u) :
    r = s ∧ t = u := by
  obtain ⟨_, h⟩ := h {}
  obtain ⟨_, g⟩ := g {}
  rw [h, Prod.mk.injEq, Workspace.mk.injEq] at g
  exact ⟨g.1, g.2.1⟩

theorem pure (a : α) : (Pure.pure a : Work α).Ends w (.ok a) w.files :=
  fun j => ⟨j, rfl⟩

theorem throw (f : Fault) : (MonadExcept.throw f : Work α).Ends w (.error f) w.files :=
  fun j => ⟨j, rfl⟩

theorem lift (x : Except Fault α) : (liftM x : Work α).Ends w x w.files := by
  intro j
  cases x <;> exact ⟨j, rfl⟩

theorem onJournal (change : Journal → Journal) : (Work.onJournal change).Ends w (.ok ()) w.files :=
  fun j => ⟨change j, rfl⟩

theorem put (p : Place) (e : Entry) : (Work.put p e).Ends w (.ok ()) (w.files.put p e) :=
  fun j => ⟨j, rfl⟩

theorem erase (p : Place) : (Work.erase p).Ends w (.ok ()) (w.files.erase p) :=
  fun j => ⟨j, rfl⟩

theorem bind {m : Work α} {f : α → Work β} {a : α} {r : Except Fault β} (h : m.Ends w (.ok a) t)
    (hf : (f a).Ends (w.on t) r u) : (m >>= f).Ends w r u := by
  intro j
  obtain ⟨j', h⟩ := h j
  obtain ⟨j'', hf⟩ := hf j'
  exact ⟨j'', by rw [run_bind, h]; exact hf⟩

theorem bind_error {m : Work α} {f : α → Work β} {e : Fault} (h : m.Ends w (.error e) t) :
    (m >>= f).Ends w (.error e) t := by
  intro j
  obtain ⟨j', h⟩ := h j
  exact ⟨j', by rw [run_bind, h]⟩

/-- What is done with the workspace itself may be told for each journal apart. -/
theorem get_bind {f : Workspace → Work β} {r : Except Fault β}
    (h : ∀ j, (f { w with journal := j }).Ends w r t) : (get >>= f).Ends w r t := by
  intro j
  obtain ⟨j', h⟩ := h j j
  exact ⟨j', by rw [run_bind]; exact h⟩

theorem tryCatch {m : Work α} {f : Fault → Work α} {a : α} (h : m.Ends w (.ok a) t) :
    (MonadExcept.tryCatch m f).Ends w (.ok a) t := by
  intro j
  obtain ⟨j', h⟩ := h j
  exact ⟨j', by rw [run_tryCatch, h]⟩

theorem tryCatch_error {m : Work α} {f : Fault → Work α} {e : Fault} {r : Except Fault α}
    (h : m.Ends w (.error e) t) (hf : (f e).Ends (w.on t) r u) :
    (MonadExcept.tryCatch m f).Ends w r u := by
  intro j
  obtain ⟨j', h⟩ := h j
  obtain ⟨j'', hf⟩ := hf j'
  exact ⟨j'', by rw [run_tryCatch, h]; exact hf⟩

theorem map {m : Work α} {r : Except Fault α} (h : m.Ends w r t) (f : α → β) :
    (m >>= fun a => Pure.pure (f a)).Ends w (r.map f) t := by
  cases r with
  | ok a => exact h.bind (.pure _)
  | error e => exact h.bind_error

end Ends

/-! ## Frames -/

/-- Wherever it starts from this home, some work comes to an end, and the files before and after
stand in a relation. -/
def Moves (home : Place) (R : Tree → Tree → Prop) (m : Work α) : Prop :=
  ∀ w : Workspace, w.home = home → ∃ r t, m.Ends w r t ∧ R w.files t

namespace Moves

variable {home : Place} {R : Tree → Tree → Prop}

section
variable [Std.Refl R]

theorem of_ends {m : Work α} (h : ∀ w : Workspace, ∃ r, m.Ends w r w.files) : Moves home R m := by
  intro w _
  obtain ⟨r, h⟩ := h w
  exact ⟨r, _, h, Std.Refl.refl _⟩

theorem pure (a : α) : Moves home R (Pure.pure a : Work α) := of_ends fun _ => ⟨_, .pure a⟩

theorem throw (f : Fault) : Moves home R (MonadExcept.throw f : Work α) :=
  of_ends fun _ => ⟨_, .throw f⟩

end

variable [IsTrans Tree R]

theorem bind {m : Work α} {f : α → Work β} (hm : Moves home R m) (hf : ∀ a, Moves home R (f a)) :
    Moves home R (m >>= f) := by
  intro w hw
  obtain ⟨x, t, hx, hR⟩ := hm w hw
  cases x with
  | error e => exact ⟨_, t, hx.bind_error, hR⟩
  | ok a =>
    obtain ⟨r, u, hr, hS⟩ := hf a (w.on t) hw
    exact ⟨r, u, hx.bind hr, IsTrans.trans _ _ _ hR hS⟩

theorem tryCatch {m : Work α} {f : Fault → Work α} (hm : Moves home R m)
    (hf : ∀ e, Moves home R (f e)) : Moves home R (MonadExcept.tryCatch m f) := by
  intro w hw
  obtain ⟨x, t, hx, hR⟩ := hm w hw
  cases x with
  | ok a => exact ⟨_, t, hx.tryCatch, hR⟩
  | error e =>
    obtain ⟨r, u, hr, hS⟩ := hf e (w.on t) hw
    exact ⟨r, u, hx.tryCatch_error hr, IsTrans.trans _ _ _ hR hS⟩

end Moves

end Work
end DfaTable
