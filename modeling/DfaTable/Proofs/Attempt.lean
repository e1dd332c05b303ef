import DfaTable.Attempt

/-!
# DfaTable.Proofs.Attempt

How attempts in a row come out, for a value, an error and a fault, and attempts that always have an
answer (`Answers`).
-/

namespace DfaTable
namespace Attempt

variable {ε α β : Type} {m : Attempt ε α} {f : α → Attempt ε β} {b : β} {e : ε} {x : Fault}

/-- Two attempts in a row have a value if both have one. -/
theorem run_bind_eq_ok_iff :
    (m >>= f).run = .ok (.ok b) ↔ ∃ a, m.run = .ok (.ok a) ∧ (f a).run = .ok (.ok b) := by
  rw [ExceptT.run_bind]
  rcases m.run with f | e | a <;> simp [bind, Except.bind, pure, Except.pure]

/-- They have the error of the first, or that of the second if the first has a value. -/
theorem run_bind_eq_ok_error_iff : (m >>= f).run = .ok (.error e) ↔
    m.run = .ok (.error e) ∨ ∃ a, m.run = .ok (.ok a) ∧ (f a).run = .ok (.error e) := by
  rw [ExceptT.run_bind]
  rcases m.run with f | e | a <;> simp [bind, Except.bind, pure, Except.pure]

/-- They are broken off if the first is, or if it has a value with which the second is. -/
theorem run_bind_eq_error_iff : (m >>= f).run = .error x ↔
    m.run = .error x ∨ ∃ a, m.run = .ok (.ok a) ∧ (f a).run = .error x := by
  rw [ExceptT.run_bind]
  rcases m.run with g | e | a <;> simp [bind, Except.bind, pure, Except.pure]

/-- An attempt that always has an answer. -/
def Answers (m : Attempt ε α) : Prop := ∀ x, m.run ≠ .error x

namespace Answers

theorem pure (a : α) : (Pure.pure a : Attempt ε α).Answers := by
  intro x h
  cases h

theorem throw (e : ε) : (MonadExcept.throw e : Attempt ε α).Answers := by
  intro x h
  cases h

theorem bind (hm : m.Answers) (hf : ∀ a, (f a).Answers) : (m >>= f).Answers := by
  intro x h
  rcases run_bind_eq_error_iff.1 h with h | ⟨a, -, h⟩
  · exact hm x h
  · exact hf a x h

end Answers

end Attempt
end DfaTable
