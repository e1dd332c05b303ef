import DfaTable.Automaton.Loading
import DfaTable.Proofs.Numeral.Spelling
import DfaTable.Proofs.Outcome.Collecting
import Mathlib.Data.List.Forall2

/-!
# DfaTable.Proofs.Automaton.Elements

What single elements are read as, and what all elements of a kind are read as together.

* `readNumber_eq_error_iff`, `readNumber_eq_defect_iff`, `readNumber_eq_ok_iff`: the three results
  of reading a number.
* `State.readsBy`, `Transition.readsBy`: the three results of reading an element.
* `readAll_eq_error_iff`, `readAll_eq_defects_iff`, `readAll_eq_ok_iff`: the first number that is
  too long breaks off; without one, all defects are reported; without any, every element is read.
-/

namespace DfaTable

open Text Markup

/-! ## Numbers -/

/-- What was found is the integer between blanks. -/
def Denotes (found : Option Text) (n : Int) : Prop :=
  ∃ t ∈ found, ∃ negative digits, Numeral.Spells t negative digits ∧
    digits.length ≤ Numeral.digitLimit ∧ Numeral.value negative digits = n

/-- What was found has the form of an integer, but this many digits, which are too many. -/
def IsTooLong (found : Option Text) (k : Nat) : Prop :=
  ∃ t ∈ found, ∃ negative digits, Numeral.Spells t negative digits ∧
    Numeral.digitLimit < digits.length ∧ digits.length = k

/-- Nothing was found, or what was found has not the form of an integer. -/
def IsNoNumber (found : Option Text) : Prop :=
  ∀ t ∈ found, ∀ negative digits, ¬ Numeral.Spells t negative digits

section
variable {found : Option Text} {defect : Defect}

theorem isNoNumber_none : IsNoNumber none := fun _ h => by cases h

theorem isNoNumber_some_iff {t : Text} :
    IsNoNumber (some t) ↔ Numeral.read t = .error .malformed := by
  rw [Numeral.read_eq_malformed_iff]
  exact ⟨fun h => h t rfl, fun h u hu => Option.some.inj hu ▸ h⟩

theorem isTooLong_some_iff {t : Text} {k : Nat} :
    IsTooLong (some t) k ↔ Numeral.read t = .error (.tooLong k) := by
  rw [Numeral.read_eq_tooLong_iff]
  exact ⟨fun ⟨u, hu, h⟩ => Option.some.inj hu ▸ h, fun h => ⟨t, rfl, h⟩⟩

theorem denotes_some_iff {t : Text} {n : Int} : Denotes (some t) n ↔ Numeral.read t = .ok n := by
  rw [Numeral.read_eq_ok_iff]
  exact ⟨fun ⟨u, hu, h⟩ => Option.some.inj hu ▸ h, fun h => ⟨t, rfl, h⟩⟩

theorem not_isTooLong_none (k : Nat) : ¬ IsTooLong none k := fun ⟨_, h, _⟩ => by cases h

theorem not_denotes_none (n : Int) : ¬ Denotes none n := fun ⟨_, h, _⟩ => by cases h

theorem readNumber_eq_error_iff (defect : Defect) {k : Nat} :
    readNumber defect found = .error ⟨k⟩ ↔ IsTooLong found k := by
  cases found with
  | none => simp [readNumber, not_isTooLong_none]
  | some t =>
    rw [isTooLong_some_iff]
    simp only [readNumber]
    rcases Numeral.read t with (_ | j) | n <;> simp

theorem readNumber_eq_defect_iff (defect : Defect) {d : Defect} :
    readNumber defect found = .ok (.error d) ↔ IsNoNumber found ∧ d = defect := by
  cases found with
  | none => simp [readNumber, isNoNumber_none, eq_comm]
  | some t =>
    rw [isNoNumber_some_iff]
    simp only [readNumber]
    rcases Numeral.read t with (_ | j) | n <;> simp [eq_comm]

theorem readNumber_eq_ok_iff (defect : Defect) {n : Int} :
    readNumber defect found = .ok (.ok n) ↔ Denotes found n := by
  cases found with
  | none => simp [readNumber, not_denotes_none]
  | some t =>
    rw [denotes_some_iff]
    simp only [readNumber]
    rcases Numeral.read t with (_ | j) | m <;> simp

/-- One of the three holds of what was found, and no two of them do. -/
theorem isTooLong_or_isNoNumber_or_denotes (found : Option Text) :
    (∃ k, IsTooLong found k) ∨ IsNoNumber found ∨ ∃ n, Denotes found n := by
  rcases h : readNumber (.id found) found with o | d | n
  · exact .inl ⟨o.digits, (readNumber_eq_error_iff _).1 h⟩
  · exact .inr (.inl ((readNumber_eq_defect_iff _).1 h).1)
  · exact .inr (.inr ⟨n, (readNumber_eq_ok_iff _).1 h⟩)

theorem Denotes.not_isTooLong {n : Int} (h : Denotes found n) (k : Nat) : ¬ IsTooLong found k := by
  intro hk
  have hn := (readNumber_eq_ok_iff (.id found)).2 h
  rw [(readNumber_eq_error_iff _).2 hk] at hn
  cases hn

theorem Denotes.not_isNoNumber {n : Int} (h : Denotes found n) : ¬ IsNoNumber found := by
  intro hd
  have hn := (readNumber_eq_ok_iff (.id found)).2 h
  rw [(readNumber_eq_defect_iff (.id found)).2 ⟨hd, rfl⟩] at hn
  cases hn

theorem IsNoNumber.not_isTooLong (h : IsNoNumber found) (k : Nat) : ¬ IsTooLong found k := by
  intro hk
  have hn := (readNumber_eq_defect_iff (.id found)).2 ⟨h, rfl⟩
  rw [(readNumber_eq_error_iff _).2 hk] at hn
  cases hn

instance : Decidable (IsNoNumber found) :=
  match h : readNumber (.id found) found with
  | .ok (.error _) => isTrue ((readNumber_eq_defect_iff _).1 h).1
  | .ok (.ok _) => isFalse ((readNumber_eq_ok_iff _).1 h).not_isNoNumber
  | .error ⟨k⟩ => isFalse fun hn => hn.not_isTooLong k ((readNumber_eq_error_iff _).1 h)

instance : Decidable (∃ n, Denotes found n) :=
  match h : readNumber (.id found) found with
  | .ok (.error _) =>
    isFalse fun ⟨_, hn⟩ => hn.not_isNoNumber ((readNumber_eq_defect_iff _).1 h).1
  | .ok (.ok n) => isTrue ⟨n, (readNumber_eq_ok_iff _).1 h⟩
  | .error ⟨k⟩ => isFalse fun ⟨_, hn⟩ => hn.not_isTooLong k ((readNumber_eq_error_iff _).1 h)

end

/-! ## Single elements -/

/-- What reading an element comes to: a number that is too long, a defect, or a value. -/
structure ReadsBy {α : Type} (read : Element → Except Oversized (Except Defect α))
    (breaksOff : Element → Nat → Prop) (isFaulty : Element → Prop) (defect : Element → Defect)
    (isRead : Element → α → Prop) : Prop where
  error_iff : ∀ e k, read e = .error ⟨k⟩ ↔ breaksOff e k
  defect_iff : ∀ e d, read e = .ok (.error d) ↔ isFaulty e ∧ d = defect e
  ok_iff : ∀ e a, read e = .ok (.ok a) ↔ isRead e a

namespace State

/-- What stands where the number of a state should. -/
def idIn (e : Element) : Option Text := e.attribute? "id".toList

/-- The state that an element describes. -/
structure IsOf (e : Element) (s : State) : Prop where
  id : Denotes (idIn e) s.id
  isFinal : s.isFinal = true ↔ e.inner.elements "final".toList ≠ []
  isInitial : s.isInitial = true ↔ e.inner.elements "initial".toList ≠ []
  name : s.name = e.attribute? "name".toList

theorem holds_iff {e : Element} {name : Text} :
    e.holds name = true ↔ e.inner.elements name ≠ [] := by
  rw [Element.holds, Forest.first?]
  cases e.inner.elements name <;> simp

/-- The state of an element with a number. -/
def withId (e : Element) (id : Int) : State :=
  { id
    isFinal := e.holds "final".toList
    isInitial := e.holds "initial".toList
    name := e.attribute? "name".toList }

theorem ofElement_eq (e : Element) :
    ofElement e = (readNumber (.id (idIn e)) (idIn e)).map fun r => r.map (withId e) := rfl

theorem isOf_iff {e : Element} {s : State} :
    IsOf e s ↔ ∃ n, Denotes (idIn e) n ∧ s = withId e n := by
  constructor
  · rintro ⟨hi, hf, hb, hn⟩
    refine ⟨s.id, hi, ?_⟩
    have h1 : s.isFinal = e.holds "final".toList := by rw [Bool.eq_iff_iff, hf, holds_iff]
    have h2 : s.isInitial = e.holds "initial".toList := by rw [Bool.eq_iff_iff, hb, holds_iff]
    rw [withId, ← h1, ← h2, ← hn]
  · rintro ⟨n, hd, rfl⟩
    exact ⟨hd, holds_iff, holds_iff, rfl⟩

theorem readsBy : ReadsBy ofElement (fun e => IsTooLong (idIn e)) (fun e => IsNoNumber (idIn e))
    (fun e => .id (idIn e)) IsOf where
  error_iff e k := by
    rw [ofElement_eq, ← readNumber_eq_error_iff (.id (idIn e))]
    rcases readNumber (.id (idIn e)) (idIn e) with o | d | n <;> simp [Except.map]
  defect_iff e d := by
    rw [ofElement_eq, ← readNumber_eq_defect_iff]
    rcases readNumber (.id (idIn e)) (idIn e) with o | d | n <;> simp [Except.map]
  ok_iff e s := by
    simp only [isOf_iff, ← readNumber_eq_ok_iff (.id (idIn e))]
    rw [ofElement_eq]
    rcases readNumber (.id (idIn e)) (idIn e) with o | d | n <;> simp [Except.map, eq_comm]

end State

namespace Transition

/-- What stands where the number of the source should. -/
def fromIn (e : Element) : Option Text := textInside "from" e.inner

/-- What stands where the number of the target should. -/
def toIn (e : Element) : Option Text := textInside "to" e.inner

/-- The transition that an element describes. -/
structure IsOf (e : Element) (t : Transition) : Prop where
  source : Denotes (fromIn e) t.source
  target : Denotes (toIn e) t.target
  label : t.label = (textInside "read" e.inner).getD []

/-- The source has too many digits; or it is a number, and the target has too many. -/
def BreaksOff (e : Element) (k : Nat) : Prop :=
  IsTooLong (fromIn e) k ∨ (∃ n, Denotes (fromIn e) n) ∧ IsTooLong (toIn e) k

/-- The source is no number; or it is one, and the target is not. -/
def IsFaulty (e : Element) : Prop :=
  IsNoNumber (fromIn e) ∨ (∃ n, Denotes (fromIn e) n) ∧ IsNoNumber (toIn e)

instance : DecidablePred IsFaulty := fun e =>
  inferInstanceAs (Decidable (IsNoNumber (fromIn e) ∨ (∃ n, Denotes (fromIn e) n) ∧
    IsNoNumber (toIn e)))

/-- The one defect that is reported of an element; that of its source comes first. -/
def defectIn (e : Element) : Defect :=
  if IsNoNumber (fromIn e) then .source (fromIn e) else .target (toIn e)

/-- The transition of an element with two numbers. -/
def withEnds (e : Element) (source target : Int) : Transition :=
  { source, target, label := (textInside "read" e.inner).getD [] }

theorem isOf_iff {e : Element} {t : Transition} :
    IsOf e t ↔ ∃ m n, Denotes (fromIn e) m ∧ Denotes (toIn e) n ∧ t = withEnds e m n := by
  constructor
  · rintro ⟨hs, ht, hl⟩
    refine ⟨t.source, t.target, hs, ht, ?_⟩
    rw [withEnds, ← hl]
  · rintro ⟨m, n, hm, hn, rfl⟩
    exact ⟨hm, hn, rfl⟩

/-! What reading an element comes to is settled by its source, unless that is a number. -/

theorem ofElement_of_isTooLong {e : Element} {k : Nat} (h : IsTooLong (fromIn e) k) :
    ofElement e = .error ⟨k⟩ := by
  have hf := (readNumber_eq_error_iff (.source (fromIn e))).2 h
  unfold fromIn at hf
  simp only [ofElement, hf]

theorem ofElement_of_isNoNumber {e : Element} (h : IsNoNumber (fromIn e)) :
    ofElement e = .ok (.error (.source (fromIn e))) := by
  have hf := (readNumber_eq_defect_iff (.source (fromIn e))).2 ⟨h, rfl⟩
  unfold fromIn at hf ⊢
  simp only [ofElement, hf]

theorem ofElement_of_denotes {e : Element} {m : Int} (h : Denotes (fromIn e) m) :
    ofElement e = (readNumber (.target (toIn e)) (toIn e)).map fun r => r.map (withEnds e m) := by
  have hf := (readNumber_eq_ok_iff (.source (fromIn e))).2 h
  unfold fromIn at hf
  simp only [ofElement, hf]
  rfl

theorem readsBy : ReadsBy ofElement BreaksOff IsFaulty defectIn IsOf where
  error_iff e k := by
    -- The target is looked at in the last case only.
    rcases isTooLong_or_isNoNumber_or_denotes (fromIn e) with ⟨j, h⟩ | h | ⟨m, h⟩
    · have hd : ¬ ∃ n, Denotes (fromIn e) n := fun ⟨n, hn⟩ => hn.not_isTooLong j h
      have hk : IsTooLong (fromIn e) k ↔ j = k := by
        rw [← readNumber_eq_error_iff (.source (fromIn e)),
          (readNumber_eq_error_iff (.source (fromIn e))).2 h]
        simp
      rw [ofElement_of_isTooLong h, BreaksOff, hk]
      simp [hd]
    · have hd : ¬ ∃ n, Denotes (fromIn e) n := fun ⟨n, hn⟩ => hn.not_isNoNumber h
      rw [ofElement_of_isNoNumber h, BreaksOff]
      simp [hd, h.not_isTooLong]
    · have hd : ∃ n, Denotes (fromIn e) n := ⟨m, h⟩
      rw [ofElement_of_denotes h, BreaksOff, or_iff_right (h.not_isTooLong k), and_iff_right hd,
        ← readNumber_eq_error_iff (.target (toIn e))]
      rcases readNumber (.target (toIn e)) (toIn e) with o | d | n <;> simp [Except.map]
  defect_iff e d := by
    rcases isTooLong_or_isNoNumber_or_denotes (fromIn e) with ⟨j, h⟩ | h | ⟨m, h⟩
    · have hd : ¬ ∃ n, Denotes (fromIn e) n := fun ⟨n, hn⟩ => hn.not_isTooLong j h
      have hn : ¬ IsNoNumber (fromIn e) := fun hn => hn.not_isTooLong j h
      rw [ofElement_of_isTooLong h, IsFaulty]
      simp [hd, hn]
    · rw [ofElement_of_isNoNumber h, IsFaulty, defectIn, if_pos h]
      simp [h, eq_comm]
    · have hd : ∃ n, Denotes (fromIn e) n := ⟨m, h⟩
      rw [ofElement_of_denotes h, IsFaulty, defectIn, if_neg h.not_isNoNumber,
        or_iff_right h.not_isNoNumber, and_iff_right hd, ← readNumber_eq_defect_iff]
      rcases readNumber (.target (toIn e)) (toIn e) with o | d' | n <;> simp [Except.map]
  ok_iff e t := by
    rw [isOf_iff]
    rcases isTooLong_or_isNoNumber_or_denotes (fromIn e) with ⟨j, h⟩ | h | ⟨m, h⟩
    · rw [ofElement_of_isTooLong h]
      simp only [reduceCtorEq, false_iff]
      rintro ⟨m, n, hm, -, -⟩
      exact hm.not_isTooLong j h
    · rw [ofElement_of_isNoNumber h]
      simp only [Except.ok.injEq, reduceCtorEq, false_iff]
      rintro ⟨m, n, hm, -, -⟩
      exact hm.not_isNoNumber h
    · have hm : ∀ m', Denotes (fromIn e) m' ↔ m' = m := by
        intro m'
        rw [← readNumber_eq_ok_iff (.source (fromIn e)),
          (readNumber_eq_ok_iff (.source (fromIn e))).2 h]
        simp [eq_comm]
      simp only [hm, ← readNumber_eq_ok_iff (.target (toIn e))]
      rw [ofElement_of_denotes h]
      rcases readNumber (.target (toIn e)) (toIn e) with o | d | n <;>
        simp [Except.map, eq_comm]

end Transition

/-! ## All elements of a kind -/

/-- What was made from some list is made from a member of it. -/
theorem exists_of_forall₂ {α β : Type} {R : α → β → Prop} {xs : List α} {ys : List β}
    (h : List.Forall₂ R xs ys) {y : β} (hy : y ∈ ys) : ∃ x ∈ xs, R x y := by
  induction h with
  | nil => cases hy
  | cons hr _ ih =>
    rcases List.mem_cons.1 hy with rfl | hy
    · exact ⟨_, List.mem_cons_self .., hr⟩
    · obtain ⟨x, hx, ho⟩ := ih hy
      exact ⟨x, List.mem_cons_of_mem _ hx, ho⟩

section
variable {ε α β : Type}

theorem mapM_eq_ok_iff {f : α → Except ε β} {xs : List α} {rs : List β} :
    xs.mapM f = .ok rs ↔ List.Forall₂ (fun x r => f x = .ok r) xs rs := by
  induction xs generalizing rs with
  | nil => simp [pure, Except.pure, eq_comm]
  | cons x xs ih =>
    rw [List.mapM_cons, List.forall₂_cons_left_iff]
    cases hx : f x with
    | error o => simp [bind, Except.bind]
    | ok r =>
      simp only [← ih]
      cases xs.mapM f <;> simp [bind, Except.bind, pure, Except.pure, eq_comm]

/-- The first failure of all is the failure of the whole. -/
theorem mapM_eq_error_iff {f : α → Except ε β} {xs : List α} {o : ε} :
    xs.mapM f = .error o ↔ ∃ before x after, xs = before ++ x :: after ∧
      (∀ y ∈ before, ∀ o', f y ≠ .error o') ∧ f x = .error o := by
  induction xs with
  | nil => simp [pure, Except.pure]
  | cons x xs ih =>
    rw [List.mapM_cons]
    cases hx : f x with
    | error o' =>
      constructor
      · intro h
        cases h
        exact ⟨[], x, xs, rfl, by simp, hx⟩
      · rintro ⟨before, y, after, he, hb, hy⟩
        cases before with
        | nil =>
          obtain ⟨rfl, rfl⟩ := List.cons.inj he
          rw [hx] at hy
          cases hy
          rfl
        | cons z before =>
          obtain ⟨rfl, rfl⟩ := List.cons.inj he
          exact absurd hx (hb x (List.mem_cons_self ..) o')
    | ok r =>
      have hm : (do let r ← Except.ok r; let rs ← xs.mapM f; pure (r :: rs)) =
          (Except.error o : Except ε (List β)) ↔ xs.mapM f = .error o := by
        cases xs.mapM f <;> simp [bind, Except.bind, pure, Except.pure]
      rw [hm, ih]
      constructor
      · rintro ⟨before, y, after, rfl, hb, hy⟩
        refine ⟨x :: before, y, after, rfl, ?_, hy⟩
        intro z hz
        rcases List.mem_cons.1 hz with rfl | hz
        · simp [hx]
        · exact hb z hz
      · rintro ⟨before, y, after, he, hb, hy⟩
        cases before with
        | nil =>
          obtain ⟨rfl, rfl⟩ := List.cons.inj he
          rw [hx] at hy
          cases hy
        | cons z before =>
          obtain ⟨rfl, rfl⟩ := List.cons.inj he
          exact ⟨before, y, after, rfl, fun w hw => hb w (List.mem_cons_of_mem _ hw), hy⟩

end

section
variable {α : Type} {read : Element → Except Oversized (Except Defect α)}
  {breaksOff : Element → Nat → Prop} {isFaulty : Element → Prop} {defect : Element → Defect}
  {isRead : Element → α → Prop}

theorem readAll_eq_error_iff (hr : ReadsBy read breaksOff isFaulty defect isRead)
    {name : String} {f : Forest} {k : Nat} :
    readAll read name f = .error ⟨k⟩ ↔ ∃ before e after,
      f.elements name.toList = before ++ e :: after ∧
        (∀ x ∈ before, ∀ j, ¬ breaksOff x j) ∧ breaksOff e k := by
  have he : readAll read name f = .error ⟨k⟩ ↔
      (f.elements name.toList).mapM read = .error ⟨k⟩ := by
    unfold readAll
    cases (f.elements name.toList).mapM read <;> simp [Except.map]
  have hb : ∀ x, (∀ o, read x ≠ .error o) ↔ ∀ j, ¬ breaksOff x j := by
    intro x
    constructor
    · exact fun h j hj => h ⟨j⟩ ((hr.error_iff x j).2 hj)
    · exact fun h o ho => h o.digits ((hr.error_iff x o.digits).1 ho)
  rw [he, mapM_eq_error_iff]
  simp only [hb, hr.error_iff]

/-- The reports that are collected are those of the faulty elements, in their order. -/
theorem errors_eq_map_filter [DecidablePred isFaulty]
    (hr : ReadsBy read breaksOff isFaulty defect isRead) {xs : List Element}
    {rs : List (Except Defect α)} (h : List.Forall₂ (fun x r => read x = .ok r) xs rs) :
    Outcome.errors rs = (xs.filter fun x => isFaulty x).map defect := by
  induction h with
  | nil => rfl
  | @cons x r xs rs hx _ ih =>
    cases r with
    | ok a =>
      have hf : ¬ isFaulty x := fun hf => by
        rw [(hr.defect_iff x (defect x)).2 ⟨hf, rfl⟩] at hx
        cases hx
      rw [List.filter_cons_of_neg (by simpa using hf), ← ih]
      rfl
    | error d =>
      obtain ⟨hf, rfl⟩ := (hr.defect_iff x d).1 hx
      rw [List.filter_cons_of_pos (by simpa using hf), List.map_cons, ← ih]
      rfl

theorem exists_mapM_of_not_breaksOff (hr : ReadsBy read breaksOff isFaulty defect isRead)
    {xs : List Element} (h : ∀ x ∈ xs, ∀ k, ¬ breaksOff x k) : ∃ rs, xs.mapM read = .ok rs := by
  cases hm : xs.mapM read with
  | ok rs => exact ⟨rs, rfl⟩
  | error o =>
    obtain ⟨before, x, after, rfl, -, hx⟩ := mapM_eq_error_iff.1 hm
    exact absurd ((hr.error_iff x o.digits).1 hx) (h x (by simp) _)

theorem not_breaksOff_of_mapM (hr : ReadsBy read breaksOff isFaulty defect isRead)
    {xs : List Element} {rs : List (Except Defect α)} (h : xs.mapM read = .ok rs) :
    ∀ x ∈ xs, ∀ k, ¬ breaksOff x k := by
  have hf := mapM_eq_ok_iff.1 h
  clear h
  induction hf with
  | nil => simp
  | @cons x r xs rs hx _ ih =>
    intro y hy k hk
    rcases List.mem_cons.1 hy with rfl | hy
    · rw [(hr.error_iff y k).2 hk] at hx
      cases hx
    · exact ih y hy k hk

theorem readAll_eq_defects_iff [DecidablePred isFaulty]
    (hr : ReadsBy read breaksOff isFaulty defect isRead) {name : String} {f : Forest}
    {ds : List Defect} :
    readAll read name f = .ok (.error ds) ↔
      (∀ e ∈ f.elements name.toList, ∀ k, ¬ breaksOff e k) ∧
        (∃ e ∈ f.elements name.toList, isFaulty e) ∧
          ds = ((f.elements name.toList).filter fun e => isFaulty e).map defect := by
  have hn : (∃ e ∈ f.elements name.toList, isFaulty e) ↔
      ((f.elements name.toList).filter fun e => isFaulty e).map defect ≠ [] := by
    simp
  rw [hn]
  constructor
  · intro h
    unfold readAll at h
    cases hm : (f.elements name.toList).mapM read with
    | error o => rw [hm] at h; cases h
    | ok rs =>
      rw [hm] at h
      obtain ⟨he, hne⟩ := Outcome.collect_eq_error_iff.1 (Except.ok.inj h)
      rw [errors_eq_map_filter hr (mapM_eq_ok_iff.1 hm)] at he
      exact ⟨not_breaksOff_of_mapM hr hm, he ▸ hne, he.symm⟩
  · rintro ⟨hb, hne, rfl⟩
    obtain ⟨rs, hm⟩ := exists_mapM_of_not_breaksOff hr hb
    have he := errors_eq_map_filter hr (mapM_eq_ok_iff.1 hm)
    unfold readAll
    rw [hm]
    exact congrArg Except.ok (Outcome.collect_eq_error_iff.2 ⟨he, hne⟩)

theorem readAll_eq_ok_iff (hr : ReadsBy read breaksOff isFaulty defect isRead) {name : String}
    {f : Forest} {as : List α} :
    readAll read name f = .ok (.ok as) ↔ List.Forall₂ isRead (f.elements name.toList) as := by
  have hm : readAll read name f = .ok (.ok as) ↔
      (f.elements name.toList).mapM read = .ok (as.map .ok) := by
    unfold readAll
    cases (f.elements name.toList).mapM read with
    | error o => simp [Except.map]
    | ok rs => simp [Except.map, Outcome.collect_eq_ok_iff]
  rw [hm, mapM_eq_ok_iff, List.forall₂_map_right_iff]
  simp only [hr.ok_iff]

end

end DfaTable
