import DfaTable.Files.Replacement
import DfaTable.Proofs.Journal.Documents
import DfaTable.Proofs.Workspace.Ends

/-!
# DfaTable.Proofs.Workspace.Reports

What work does to the journal. `Reports` says that, from wherever it starts and however it ends, it
does nothing there but report events of some kind. There is one rule for each way in which work is
put together. Work on files reports nothing, whatever it is that counts, but for the replacement of
one.
-/

namespace DfaTable

open Journal

namespace Work

variable {α β : Type} {P : Event → Prop}

theorem run_onJournal_bind (change : Journal → Journal) (f : Unit → Work α) (w : Workspace) :
    (onJournal change >>= f).run.run w =
      (f ()).run.run { w with journal := change w.journal } := rfl

/-- However it ends, some work only adds events of a kind to the journal. -/
def Reports (P : Event → Prop) (m : Work α) : Prop :=
  ∀ w : Workspace, ∃ es, (∀ e ∈ es, P e) ∧ (m.run.run w).2.journal = w.journal.reports es

namespace Reports

theorem of_eq {m : Work α} (h : ∀ w : Workspace, (m.run.run w).2.journal = w.journal) :
    m.Reports P := fun w => ⟨[], by simp, h w⟩

theorem pure (a : α) : (Pure.pure a : Work α).Reports P := of_eq fun _ => rfl

theorem throw (f : Fault) : (MonadExcept.throw f : Work α).Reports P := of_eq fun _ => rfl

theorem lift (x : Except Fault α) : (liftM x : Work α).Reports P := of_eq fun _ => by
  cases x <;> rfl

theorem get : (MonadState.get : Work Workspace).Reports P := of_eq fun _ => rfl

theorem put (p : Files.Place) (e : Files.Entry) : (Work.put p e).Reports P := of_eq fun _ => rfl

theorem erase (p : Files.Place) : (Work.erase p).Reports P := of_eq fun _ => rfl

theorem reportAll {es : List Event} (h : ∀ e ∈ es, P e) : (Work.reportAll es).Reports P :=
  fun _ => ⟨es, h, rfl⟩

theorem report {severity : Severity} {source name : String} {fields : List (Text × Value)}
    (h : P { severity, source := source.toList, name := name.toList, fields }) :
    (Work.report severity source name fields).Reports P :=
  fun _ => ⟨[_], by simpa using h, rfl⟩

theorem bind {m : Work α} {f : α → Work β} (hm : m.Reports P) (hf : ∀ a, (f a).Reports P) :
    (m >>= f).Reports P := by
  intro w
  obtain ⟨es, he, hj⟩ := hm w
  rw [run_bind]
  rcases hr : m.run.run w with ⟨_ | a, w'⟩
  · rw [hr] at hj
    exact ⟨es, he, hj⟩
  · rw [hr] at hj
    obtain ⟨fs, hfs, hj'⟩ := hf a w'
    refine ⟨es ++ fs, fun e hmem => (List.mem_append.1 hmem).elim (he e) (hfs e), ?_⟩
    rw [reports_append, ← hj]
    exact hj'

theorem tryCatch {m : Work α} {f : Fault → Work α} (hm : m.Reports P)
    (hf : ∀ e, (f e).Reports P) : (MonadExcept.tryCatch m f).Reports P := by
  intro w
  obtain ⟨es, he, hj⟩ := hm w
  rw [run_tryCatch]
  rcases hr : m.run.run w with ⟨x | a, w'⟩
  · rw [hr] at hj
    obtain ⟨fs, hfs, hj'⟩ := hf x w'
    refine ⟨es ++ fs, fun e hmem => (List.mem_append.1 hmem).elim (he e) (hfs e), ?_⟩
    rw [reports_append, ← hj]
    exact hj'
  · rw [hr] at hj
    exact ⟨es, he, hj⟩

/-- Work that goes on unless something is refused. -/
theorem guarded {c : Prop} [Decidable c] {f : Fault} {m : PUnit → Work α}
    (h : ∀ u, (m u).Reports P) : (if c then MonadExcept.throw f >>= m else m ()).Reports P := by
  split
  · exact .bind (.throw f) h
  · exact h _

end Reports
end Work

namespace Files

open Work

variable {α : Type} {P : Event → Prop}

theorem reports_refuse (r : Refusal) (p : Path) : (refuse r p : Work α).Reports P := .throw _

theorem reports_locate (p : Path) : (locate p).Reports P := by
  unfold locate
  refine .guarded fun _ => .bind .get fun w => ?_
  split
  · exact .pure _
  · exact reports_refuse _ _

theorem reports_find? (p : Path) : (find? p).Reports P := by
  unfold find?
  split
  · exact .pure _
  · refine .bind .get fun w => ?_
    split
    · exact .pure _
    · exact .pure _
    · exact .pure _
    · exact reports_refuse _ _

theorem reports_isThere (p : Path) : (isThere p).Reports P :=
  .bind (reports_find? p) fun _ => .pure _

theorem reports_isDirectory (p : Path) : (isDirectory p).Reports P :=
  .bind (reports_find? p) fun _ => .pure _

theorem reports_isFile (p : Path) : (isFile p).Reports P := by
  refine .bind (reports_find? p) fun found => ?_
  split <;> exact .pure _

theorem reports_read (p : Path) : (read p).Reports P := by
  refine .bind (reports_locate p) fun place => .bind .get fun w => ?_
  split
  · exact .pure _
  · exact reports_refuse _ _
  · exact reports_refuse _ _

theorem reports_makeDirectory (p : Path) : (makeDirectory p).Reports P := by
  refine .bind (reports_locate p) fun place => .bind .get fun w => ?_
  split
  · exact reports_refuse _ _
  · exact .put _ _

theorem reports_haveDirectory (p : Path) : (haveDirectory p).Reports P := by
  refine .tryCatch (reports_makeDirectory p) fun f => ?_
  split
  · split
    · exact .throw _
    · refine .bind (reports_isDirectory p) fun found => ?_
      split
      · exact .pure _
      · exact .throw _
  · exact .throw _

theorem reports_haveDirectoriesFrom (root : Text) (names : List Text) :
    (haveDirectoriesFrom root names).Reports P := by
  induction names with
  | nil => exact reports_haveDirectory _
  | cons n above ih =>
    refine .tryCatch (reports_haveDirectory _) fun f => ?_
    split
    · exact .bind ih fun _ => reports_haveDirectory _
    · exact .throw _

theorem reports_haveDirectories (p : Path) : (haveDirectories p).Reports P :=
  reports_haveDirectoriesFrom _ _

theorem reports_touch (p : Path) : (touch p).Reports P := by
  refine .bind (reports_locate p) fun place => .bind .get fun w => ?_
  split
  · exact .pure _
  · exact .put _ _

theorem reports_remove (p : Path) : (remove p).Reports P := by
  refine .bind (reports_locate p) fun place => .bind .get fun w => ?_
  split
  · exact .erase _
  · exact reports_refuse _ _
  · exact reports_refuse _ _

theorem reports_move (source target : Path) : (move source target).Reports P := by
  unfold move
  refine .guarded fun _ => .bind (reports_locate source) fun place => .bind .get fun w =>
    .bind .get fun w' => ?_
  split
  · split
    · exact .throw _
    · refine .bind .get fun w'' => ?_
      split
      · exact .throw _
      · exact .bind (.erase _) fun _ => .put _ _
  · exact .throw _
  · exact .throw _
  · exact .throw _

theorem reports_ready (p : Path) (keep : Bool) : (ready p keep).Reports P := by
  refine .bind (reports_locate p) fun place => .bind .get fun w => ?_
  split
  · exact reports_refuse _ _
  · split
    · exact .pure _
    · exact .bind (.put _ _) fun _ => .pure _
  · exact .bind (.put _ _) fun _ => .pure _

theorem reports_write (p : Path) (keep : Bool) (encoding : Text) (c : Content) :
    (write p keep encoding c).Reports P := by
  unfold write
  refine .guarded fun _ => .bind (reports_ready p keep) fun ready => .bind (.lift _) fun e =>
    .bind (.put _ _) fun _ => ?_
  split
  · exact .throw _
  · exact .throw _
  · exact .pure _

theorem reports_make (p : Path) : (Draft.make p).Reports P :=
  .bind .get fun _ => .bind (reports_touch _) fun _ => .pure _

end Files
end DfaTable
