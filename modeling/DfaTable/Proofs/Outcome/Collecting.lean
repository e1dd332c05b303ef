import DfaTable.Outcome
import Mathlib.Data.List.Basic
import Mathlib.Data.List.Induction

/-!
# DfaTable.Proofs.Outcome.Collecting

Many outcomes are collected into one by a single pass, which gathers the values and the errors
apart.

* `gather_eq`: after any number of outcomes, the pass has gathered their values and their errors,
  each in order.
* `collect_eq_iff`: the outcome of all is the list of all values if there is no error, and otherwise
  the list of all errors.
* `collects_all`: that, and that two lists collected one behind the other add up.
-/

namespace DfaTable.Outcome

variable {ε α : Type} {xs : List (Except ε α)}

/-! ## The pass -/

/-- What was gathered from some outcomes. -/
structure Gathered (ε α : Type) where
  values : List α := []
  errors : List ε := []

namespace Gathered

/-- One more outcome. -/
def add (g : Gathered ε α) : Except ε α → Gathered ε α
  | .ok a => { g with values := g.values ++ [a] }
  | .error e => { g with errors := g.errors ++ [e] }

/-- The outcome of all: the values count only if there is no error. -/
def outcome (g : Gathered ε α) : Except (List ε) (List α) :=
  if g.errors.isEmpty then .ok g.values else .error g.errors

end Gathered

/-- What a pass over outcomes gathers. -/
def gather (outcomes : List (Except ε α)) : Gathered ε α := outcomes.foldl Gathered.add {}

theorem gather_concat (xs : List (Except ε α)) (x : Except ε α) :
    gather (xs ++ [x]) = (gather xs).add x := List.foldl_append

/-- No outcome is passed over, and none ends the pass. -/
theorem gather_eq (xs : List (Except ε α)) :
    gather xs = { values := values xs, errors := errors xs } := by
  induction xs using List.reverseRecOn with
  | nil => rfl
  | append_singleton xs x ih =>
    rw [gather_concat, ih, values_append, errors_append]
    cases x with
    | ok a => exact congrArg (Gathered.mk (values xs ++ [a])) (List.append_nil _).symm
    | error e => exact congrArg (Gathered.mk · (errors xs ++ [e])) (List.append_nil _).symm

theorem outcome_gather (xs : List (Except ε α)) : (gather xs).outcome = collect xs := by
  rw [gather_eq]
  unfold Gathered.outcome collect
  dsimp only
  cases errors xs <;> rfl

/-! ## All outcomes -/

theorem collect_eq_ok_iff {rs : List (Except ε α)} {as : List α} :
    collect rs = .ok as ↔ rs = as.map .ok := by
  induction rs generalizing as with
  | nil => cases as <;> simp [collect, errors, values]
  | cons r rs ih =>
    cases r with
    | error e => cases as <;> simp [collect, errors]
    | ok a =>
      cases as with
      | nil =>
        simp only [collect, errors, values, List.filterMap_cons]
        split <;> simp
      | cons b bs =>
        rw [List.map_cons, List.cons.injEq, ← ih]
        simp only [collect, errors, values, List.filterMap_cons]
        split <;> simp

theorem collect_eq_error_iff {rs : List (Except ε α)} {es : List ε} :
    collect rs = .error es ↔ errors rs = es ∧ es ≠ [] := by
  unfold collect
  split
  · rename_i h
    simp only [h, reduceCtorEq, false_iff]
    rintro ⟨rfl, hn⟩
    exact hn rfl
  · rename_i h
    rw [Except.error.injEq, iff_self_and]
    rintro rfl hn
    exact h hn

/-- The outcomes that failed hold the errors. -/
theorem map_error_errors (xs : List (Except ε α)) :
    (errors xs).map .error = xs.filter (!·.isOk) := by
  induction xs with
  | nil => rfl
  | cons x xs ih =>
    cases x with
    | ok a => exact ih
    | error e => exact congrArg (Except.error e :: ·) ih

theorem errors_eq_iff {es : List ε} :
    errors xs = es ↔ xs.filter (!·.isOk) = es.map .error := by
  have hinj : Function.Injective (Except.error : ε → Except ε α) := fun _ _ => Except.error.inj
  rw [← map_error_errors, (List.map_injective_iff.2 hinj).eq_iff]

/-- What outcomes are collected into, told by the outcomes themselves. -/
inductive Collects (xs : List (Except ε α)) : Except (List ε) (List α) → Prop where
  | values {as : List α} : xs = as.map .ok → Collects xs (.ok as)
  | errors {es : List ε} : es ≠ [] → xs.filter (!·.isOk) = es.map .error → Collects xs (.error es)

theorem collect_eq_iff {r : Except (List ε) (List α)} : collect xs = r ↔ Collects xs r := by
  cases r with
  | ok as =>
    rw [collect_eq_ok_iff]
    refine ⟨.values, fun h => ?_⟩
    cases h with
    | values h => exact h
  | error es =>
    rw [collect_eq_error_iff, errors_eq_iff]
    refine ⟨fun h => .errors h.2 h.1, fun h => ?_⟩
    cases h with
    | errors hne h => exact ⟨h, hne⟩

/-- The errors that are told of all outcomes. -/
def reported : Except (List ε) (List α) → List ε
  | .ok _ => []
  | .error es => es

theorem reported_collect (xs : List (Except ε α)) : reported (collect xs) = errors xs := by
  unfold collect
  split
  · next h => exact h.symm
  · rfl

theorem isOk_collect_iff : (collect xs).isOk = true ↔ ∀ e, .error e ∉ xs := by
  have hok : (collect xs).isOk = true ↔ errors xs = [] := by
    unfold collect
    split
    · next h => exact iff_of_true rfl h
    · next hne => exact iff_of_false nofun hne
  rw [hok, errors_eq_iff, List.map_nil, List.filter_eq_nil_iff]
  constructor
  · intro h e he
    exact h _ he rfl
  · intro h x hx
    cases x with
    | ok a => exact nofun
    | error e => exact absurd hx (h e)

/-- Outcomes are collected as a pass over them does it. Together they succeed if and only if none of
them has failed; then all values are there in their order, and otherwise all errors in theirs. The
errors of two lists one behind the other are those of both, and so are the values if there are no
errors. -/
theorem collects_all (xs : List (Except ε α)) :
    collect xs = (gather xs).outcome ∧
    ((collect xs).isOk = true ↔ ∀ e, .error e ∉ xs) ∧
    (∀ r, collect xs = r ↔ Collects xs r) ∧
    ∀ ys, reported (collect (xs ++ ys)) = reported (collect xs) ++ reported (collect ys) ∧
      ∀ as bs, collect xs = .ok as → collect ys = .ok bs → collect (xs ++ ys) = .ok (as ++ bs) := by
  refine ⟨(outcome_gather xs).symm, isOk_collect_iff, fun r => collect_eq_iff, fun ys => ⟨?_, ?_⟩⟩
  · rw [reported_collect, reported_collect, reported_collect, errors_append]
  · intro as bs has hbs
    rw [collect_eq_ok_iff] at has hbs ⊢
    rw [has, hbs, List.map_append]

/-- Both errors are told, and in their order; the values of two lists are put together. -/
theorem collects_all_twoErrors :
    let xs : List (Except Nat Nat) := [.error 1, .ok 5, .error 2]
    let ys : List (Except Nat Nat) := [.ok 5]
    let zs : List (Except Nat Nat) := [.ok 6, .ok 7]
    collect xs = .error [1, 2] ∧
      (collect ys = .ok [5] ∧ collect zs = .ok [6, 7] ∧ collect (ys ++ zs) = .ok [5, 6, 7]) ∧
      reported (collect (xs ++ ys ++ xs)) = [1, 2, 1, 2] := by
  intro xs ys zs
  have hxs : collect xs = .error [1, 2] :=
    ((collects_all xs).2.2.1 _).2 (.errors (List.cons_ne_nil _ _) rfl)
  have hzs := ((collects_all ys).2.2.2 zs).2 [5] [6, 7] rfl rfl
  have happend := ((collects_all (xs ++ ys)).2.2.2 xs).1
  have hxys := ((collects_all xs).2.2.2 ys).1
  refine ⟨hxs, ⟨rfl, rfl, hzs⟩, ?_⟩
  rw [happend, hxys, hxs]
  rfl

end DfaTable.Outcome
