import DfaTable.Numeral
import DfaTable.Proofs.Text.Pieces
import Mathlib.Algebra.Group.Nat.Defs
import Mathlib.Data.List.TakeWhile

/-!
# DfaTable.Proofs.Numeral.Spelling

What integers are written as, and what it takes for a text to be read as a number, said by the form
of the text.

* `ofInt_injective`: an integer is known by its notation, however large it is.
* `append_space_inj`: so is one that stands before a space, with what follows the space.
* `read_eq_ok_iff`: a sign and digits between blanks, and not too many of them.
* `read_eq_tooLong_iff`: the same form with too many digits, of which the refusal tells the number.
* `read_eq_malformed_iff`: any other form.
* `read_ofInt`: what is written is read back, if it is short enough.
* `write?_eq_some_iff`: a number that is too long for that is not written.
-/

namespace DfaTable
namespace Numeral

open Text

/-! ## Notation -/

theorem isDigit_or_eq_minus_of_mem_ofInt {n : Int} {c : Char} (h : c ∈ ofInt n) :
    c.isDigit = true ∨ c = '-' := by
  cases n with
  | ofNat n => exact .inl (isDigit_of_mem_ofNat h)
  | negSucc n =>
    rcases List.mem_cons.1 h with rfl | h
    · exact .inr rfl
    · exact .inl (isDigit_of_mem_ofNat h)

theorem notMem_ofInt {n : Int} {c : Char} (hd : c.isDigit = false) (hm : c ≠ '-') :
    c ∉ ofInt n := by
  intro h
  rcases isDigit_or_eq_minus_of_mem_ofInt h with h | h
  · rw [hd] at h
    cases h
  · exact hm h

theorem space_notMem_ofInt (n : Int) : ' ' ∉ ofInt n := notMem_ofInt (by decide) (by decide)

theorem ofNat_injective : Function.Injective ofNat := by
  intro m n h
  rw [← ofDigitChars_ofNat m, h, ofDigitChars_ofNat]

theorem minus_notMem_ofNat (n : Nat) : '-' ∉ ofNat n := by
  intro h
  have := isDigit_of_mem_ofNat h
  cases this

theorem ofInt_injective : Function.Injective ofInt := by
  intro m n h
  cases m with
  | ofNat m =>
    cases n with
    | ofNat n => rw [ofNat_injective h]
    | negSucc n =>
      have hm : '-' ∈ ofNat m := by rw [show ofNat m = '-' :: ofNat (n + 1) from h]; simp
      exact absurd hm (minus_notMem_ofNat m)
  | negSucc m =>
    cases n with
    | ofNat n =>
      have hm : '-' ∈ ofNat n := by rw [show ofNat n = '-' :: ofNat (m + 1) from h.symm]; simp
      exact absurd hm (minus_notMem_ofNat n)
    | negSucc n =>
      have := ofNat_injective (List.cons.inj h).2
      rw [Nat.succ.inj this]

theorem append_space_inj {m n : Int} {t u : Text} (h : ofInt m ++ ' ' :: t = ofInt n ++ ' ' :: u) :
    m = n ∧ t = u := by
  obtain ⟨hn, ht⟩ := Text.append_cons_inj (space_notMem_ofInt m) (space_notMem_ofInt n) h
  exact ⟨ofInt_injective hn, ht⟩

/-! ## The form of a number -/

/-- Between its blanks a text is a minus sign or none, and one or more digits. -/
structure Spells (t : Text) (negative : Bool) (digits : Text) : Prop where
  body : strip t = if negative then '-' :: digits else digits
  ne_nil : digits ≠ []
  isDigit : ∀ c ∈ digits, c.isDigit = true

/-- A sign is no digit, so there is one way only to take it off. -/
theorem spells_iff {t : Text} {negative : Bool} {digits : Text} :
    Spells t negative digits ↔
      takeMinus (strip t) = (negative, digits) ∧ digits ≠ [] ∧ ∀ c ∈ digits, c.isDigit = true := by
  constructor
  · rintro ⟨hb, hn, hd⟩
    refine ⟨?_, hn, hd⟩
    cases negative with
    | true => rw [hb]; rfl
    | false =>
      rw [hb]
      cases digits with
      | nil => exact absurd rfl hn
      | cons c more =>
        have hc : c ≠ '-' := by
          rintro rfl
          exact absurd (hd '-' (List.mem_cons_self ..)) (by decide)
        simp [takeMinus, hc]
  · rintro ⟨ht, hn, hd⟩
    refine ⟨?_, hn, hd⟩
    unfold takeMinus at ht
    split at ht
    · cases ht
      assumption
    · cases ht
      rfl

theorem spells_takeMinus_iff {t : Text} :
    Spells t (takeMinus (strip t)).1 (takeMinus (strip t)).2 ↔
      (takeMinus (strip t)).2.isEmpty = false ∧
        (takeMinus (strip t)).2.all Char.isDigit = true := by
  rw [spells_iff]
  simp

/-- The form of a text decides what reading it gives. -/
theorem read_of_spells {t : Text} {negative : Bool} {digits : Text}
    (h : Spells t negative digits) : read t = bounded negative digits := by
  have hs := h
  obtain ⟨ht, -, -⟩ := spells_iff.1 h
  have he : (takeMinus (strip t)).1 = negative := by rw [ht]
  have hd : (takeMinus (strip t)).2 = digits := by rw [ht]
  rw [← he, ← hd] at hs ⊢
  obtain ⟨h1, h2⟩ := spells_takeMinus_iff.1 hs
  simp [read, h1, h2]

theorem read_of_not_spells {t : Text} (h : ∀ negative digits, ¬ Spells t negative digits) :
    read t = .error .malformed := by
  have hs := mt spells_takeMinus_iff.2 (h _ _)
  have hc : ((takeMinus (strip t)).2.isEmpty ||
      !(takeMinus (strip t)).2.all Char.isDigit) = true := by
    cases he : (takeMinus (strip t)).2.isEmpty with
    | true => rfl
    | false =>
      cases ha : (takeMinus (strip t)).2.all Char.isDigit with
      | true => exact absurd ⟨he, ha⟩ hs
      | false => rfl
  exact if_pos hc

theorem bounded_ne_malformed (negative : Bool) (digits : Text) :
    bounded negative digits ≠ .error .malformed := by
  unfold bounded
  split <;> simp

theorem read_eq_malformed_iff {t : Text} :
    read t = .error .malformed ↔ ∀ negative digits, ¬ Spells t negative digits := by
  constructor
  · intro h negative digits hs
    rw [read_of_spells hs] at h
    exact bounded_ne_malformed _ _ h
  · exact read_of_not_spells

theorem read_eq_ok_iff {t : Text} {n : Int} :
    read t = .ok n ↔ ∃ negative digits, Spells t negative digits ∧
      digits.length ≤ digitLimit ∧ value negative digits = n := by
  constructor
  · intro h
    by_cases hs : ∃ negative digits, Spells t negative digits
    · obtain ⟨negative, digits, hs⟩ := hs
      rw [read_of_spells hs] at h
      unfold bounded at h
      split at h
      · cases h
      · exact ⟨negative, digits, hs, by omega, Except.ok.inj h⟩
    · rw [read_of_not_spells fun negative digits hs' => hs ⟨negative, digits, hs'⟩] at h
      cases h
  · rintro ⟨negative, digits, hs, hl, rfl⟩
    rw [read_of_spells hs, bounded, if_neg (by omega)]

theorem read_eq_tooLong_iff {t : Text} {k : Nat} :
    read t = .error (.tooLong k) ↔ ∃ negative digits, Spells t negative digits ∧
      digitLimit < digits.length ∧ digits.length = k := by
  constructor
  · intro h
    by_cases hs : ∃ negative digits, Spells t negative digits
    · obtain ⟨negative, digits, hs⟩ := hs
      rw [read_of_spells hs] at h
      unfold bounded at h
      split at h
      · cases h
        exact ⟨negative, digits, hs, by assumption, rfl⟩
      · cases h
    · rw [read_of_not_spells fun negative digits hs' => hs ⟨negative, digits, hs'⟩] at h
      cases h
  · rintro ⟨negative, digits, hs, hl, rfl⟩
    rw [read_of_spells hs, bounded, if_pos hl]

/-! ## What is written is read back -/

theorem not_isBlank_of_mem_ofInt {n : Int} {c : Char} (h : c ∈ ofInt n) : isBlank c = false := by
  rcases isDigit_or_eq_minus_of_mem_ofInt h with hd | rfl
  · have hr : 48 ≤ c.toNat ∧ c.toNat ≤ 57 := Char.isDigit_iff_toNat.1 hd
    rw [isBlank, if_pos (by omega)]
    simp
    omega
  · decide

theorem ofInt_ne_nil (n : Int) : ofInt n ≠ [] := by
  cases n with
  | ofNat n => exact ofNat_ne_nil n
  | negSucc n => simp [ofInt]

theorem strip_of_not_blank {t : Text} (h : ∀ c ∈ t, isBlank c = false) : strip t = t := by
  have hd : ∀ u : Text, (∀ c ∈ u, isBlank c = false) → u.dropWhile isBlank = u := by
    intro u hu
    rw [List.dropWhile_eq_self_iff]
    intro hl hb
    rw [hu _ (List.getElem_mem hl)] at hb
    cases hb
  rw [strip, trim, trimEnd, hd t h, hd t.reverse fun c hc => h c (List.mem_reverse.1 hc),
    List.reverse_reverse]

theorem collapse_ofInt (n : Int) : collapse (ofInt n) = ofInt n := by
  rw [collapse, words_of_word (ofInt_ne_nil n) fun c hc => not_isBlank_of_mem_ofInt hc]
  rfl

theorem spells_ofInt (n : Int) : Spells (ofInt n) (decide (n < 0)) (ofNat n.natAbs) where
  body := by
    rw [strip_of_not_blank fun c hc => not_isBlank_of_mem_ofInt hc]
    cases n with
    | ofNat n => rfl
    | negSucc n =>
      rw [if_pos (decide_eq_true (Int.negSucc_lt_zero n))]
      rfl
  ne_nil := ofNat_ne_nil _
  isDigit _ hc := isDigit_of_mem_ofNat hc

theorem length_ofNat_le {n : Nat} (h : n < 10 ^ digitLimit) : (ofNat n).length ≤ digitLimit :=
  (Nat.length_toDigits_le_iff (by decide) (by decide)).2 h

theorem read_ofInt {n : Int} (h : n.natAbs < 10 ^ digitLimit) : read (ofInt n) = .ok n := by
  refine read_eq_ok_iff.2 ⟨_, _, spells_ofInt n, length_ofNat_le h, ?_⟩
  rw [value, ofDigitChars_ofNat]
  cases n with
  | ofNat n => rfl
  | negSucc n =>
    rw [if_pos (decide_eq_true (Int.negSucc_lt_zero n))]
    rfl

/-! ## Numbers that are too long -/

/-- The limit is on the digits, so the sign does not count. -/
theorem write?_eq_some_iff {n : Int} {t : Text} :
    write? n = some t ↔ n.natAbs < 10 ^ digitLimit ∧ t = ofInt n := by
  have hs := (spells_iff.1 (spells_ofInt n)).1
  rw [strip_of_not_blank fun c hc => not_isBlank_of_mem_ofInt hc] at hs
  have hl : digitLimit < (ofNat n.natAbs).length ↔ ¬ n.natAbs < 10 ^ digitLimit := by
    rw [← Nat.not_le]
    exact not_congr (Nat.length_toDigits_le_iff (by decide) (by decide))
  unfold write?
  simp only [hs, gt_iff_lt, hl]
  split
  · next h => exact iff_of_false nofun fun ⟨hn, _⟩ => h hn
  · next h => rw [Option.some.injEq, and_iff_right (not_not.1 h), eq_comm]

end Numeral
end DfaTable
