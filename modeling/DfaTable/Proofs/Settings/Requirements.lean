import DfaTable.Proofs.Attempt
import DfaTable.Settings

/-!
# DfaTable.Proofs.Settings.Requirements

Attempts that demand one thing after the other. Such an attempt has a value only if all demands are
met, and otherwise the error of the first that is not.

* `Demands.bind`: attempts in a row demand what the first one does, and then what the next one does.
* `FirstFails.not_forall`: an error and a value exclude one another.
-/

namespace DfaTable.Settings

open Text

/-- Something that settings need, and the field that an error names if they do not have it. -/
structure Requirement where
  field : String
  holds : Prop

/-- The field of the first requirement that does not hold. -/
inductive FirstFails : List Requirement → Text → Prop where
  | here {q : Requirement} {qs : List Requirement} : ¬q.holds →
      FirstFails (q :: qs) q.field.toList
  | later {q : Requirement} {qs : List Requirement} {field : Text} : q.holds →
      FirstFails qs field → FirstFails (q :: qs) field

variable {q : Requirement} {qs rs : List Requirement} {field : Text}

theorem firstFails_cons_iff : FirstFails (q :: qs) field ↔
    ¬q.holds ∧ field = q.field.toList ∨ q.holds ∧ FirstFails qs field := by
  constructor
  · rintro (h | ⟨h, hs⟩)
    · exact .inl ⟨h, rfl⟩
    · exact .inr ⟨h, hs⟩
  · rintro (⟨h, rfl⟩ | ⟨h, hs⟩)
    · exact .here h
    · exact .later h hs

theorem FirstFails.append (h : FirstFails qs field) : FirstFails (qs ++ rs) field := by
  induction h with
  | here h => exact .here h
  | later h _ ih => exact .later h ih

theorem FirstFails.append_of_holds (hq : ∀ q ∈ qs, q.holds) (h : FirstFails rs field) :
    FirstFails (qs ++ rs) field := by
  induction qs with
  | nil => exact h
  | cons q qs ih =>
    obtain ⟨hq, hqs⟩ := List.forall_mem_cons.1 hq
    exact .later hq (ih hqs)

theorem FirstFails.not_forall (h : FirstFails qs field) : ¬∀ q ∈ qs, q.holds := by
  intro hq
  induction h with
  | here h => exact h (List.forall_mem_cons.1 hq).1
  | later _ _ ih => exact ih (List.forall_mem_cons.1 hq).2

/-- An attempt with these demands, in this order. What it comes to has a property. -/
structure Demands {α : Type} (m : Check α) (qs : List Requirement) (P : α → Prop) : Prop where
  ok {a : α} : m.run = .ok (.ok a) → (∀ q ∈ qs, q.holds) ∧ P a
  error {e : SettingsError} : m.run = .ok (.error e) → FirstFails qs e.field

namespace Demands

variable {α β : Type} {m : Check α} {f : α → Check β} {P : α → Prop} {Q : β → Prop}
  {e : SettingsError}

theorem pure {a : α} (h : P a) : Demands (Pure.pure a) [] P where
  ok hok := by
    cases hok
    exact ⟨List.forall_mem_nil _, h⟩
  error herr := nomatch herr

/-- A demand that is met comes before those of the rest. -/
theorem met (hq : q.holds) (hm : Demands m qs P) : Demands m (q :: qs) P where
  ok hok := by
    obtain ⟨hqs, h⟩ := hm.ok hok
    exact ⟨List.forall_mem_cons.2 ⟨hq, hqs⟩, h⟩
  error herr := .later hq (hm.error herr)

theorem throw (he : e.field = q.field.toList) (hq : ¬q.holds) :
    Demands (MonadExcept.throw e) (q :: qs) P where
  ok hok := nomatch hok
  error herr := by
    cases herr
    rw [he]
    exact .here hq

/-- An attempt with a single demand, which is all that it takes to have a value. -/
theorem single (hq : (∃ a, m.run = .ok (.ok a)) ↔ q.holds)
    (he : ∀ {e}, m.run = .ok (.error e) → e.field = q.field.toList) :
    Demands m [q] fun a => m.run = .ok (.ok a) where
  ok hok := ⟨List.forall_mem_singleton.2 (hq.1 ⟨_, hok⟩), hok⟩
  error herr := by
    rw [he herr]
    refine .here fun h => ?_
    obtain ⟨a, ha⟩ := hq.2 h
    cases herr.symm.trans ha

theorem imp {P' : α → Prop} (hm : Demands m qs P) (h : ∀ a, P a → P' a) : Demands m qs P' where
  ok hok := ⟨(hm.ok hok).1, h _ (hm.ok hok).2⟩
  error herr := hm.error herr

theorem bind (hm : Demands m qs P) (hf : ∀ a, P a → Demands (f a) rs Q) :
    Demands (m >>= f) (qs ++ rs) Q where
  ok hok := by
    obtain ⟨a, ha, hb⟩ := Attempt.run_bind_eq_ok_iff.1 hok
    obtain ⟨hqs, h⟩ := hm.ok ha
    obtain ⟨hrs, hQ⟩ := (hf a h).ok hb
    exact ⟨List.forall_mem_append.2 ⟨hqs, hrs⟩, hQ⟩
  error herr := by
    rcases Attempt.run_bind_eq_ok_error_iff.1 herr with h | ⟨a, ha, h⟩
    · exact (hm.error h).append
    · obtain ⟨hqs, hP⟩ := hm.ok ha
      exact .append_of_holds hqs ((hf a hP).error h)

end Demands

end DfaTable.Settings
