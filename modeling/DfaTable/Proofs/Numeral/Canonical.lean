import DfaTable.Proofs.Numeral.Spelling
import Mathlib.Data.List.Basic

/-!
# DfaTable.Proofs.Numeral.Canonical

Of all the ways in which an integer can be spelled, one is written: without blanks, without zeros
in front and without a sign before zero.

* `isCanonical_ofInt`: what is written is of this form.
* `natAbs_value_lt`: digits bound what they denote.
* `read_between_blanks`: what is written is read back, also between blanks.
-/

namespace DfaTable
namespace Numeral

open Text

/-! ## Digits and values -/

theorem ofDigitChars_lt {digits : Text} (h : ∀ c ∈ digits, c.isDigit = true) :
    Nat.ofDigitChars 10 digits 0 < 10 ^ digits.length := by
  induction digits with
  | nil => decide
  | cons c digits ih =>
    have hc : c.toNat ≤ 57 := (Char.isDigit_iff_toNat.1 (h c (List.mem_cons_self ..))).2
    have hd := ih fun d hd => h d (List.mem_cons_of_mem _ hd)
    have hzero : '0'.toNat = 48 := rfl
    have hle : 10 ^ digits.length * (c.toNat - 48) ≤ 10 ^ digits.length * 9 :=
      Nat.mul_le_mul_left _ (by omega)
    rw [Nat.ofDigitChars_cons, Nat.ofDigitChars_eq_ofDigitChars_zero, Nat.mul_zero, Nat.zero_add,
      hzero, List.length_cons, Nat.pow_succ]
    omega

/-- So many digits denote no more than that. -/
theorem natAbs_value_lt (negative : Bool) {digits : Text}
    (h : ∀ c ∈ digits, c.isDigit = true) : (value negative digits).natAbs < 10 ^ digits.length := by
  have hlt := ofDigitChars_lt h
  cases negative with
  | false => exact hlt
  | true =>
    show (-(Nat.ofDigitChars 10 digits 0 : Int)).natAbs < _
    rwa [Int.natAbs_neg]

theorem natAbs_lt_of_read {t : Text} {n : Int} (h : read t = .ok n) :
    n.natAbs < 10 ^ digitLimit := by
  obtain ⟨negative, digits, hs, hl, rfl⟩ := read_eq_ok_iff.1 h
  exact Nat.lt_of_lt_of_le (natAbs_value_lt negative hs.isDigit)
    (Nat.pow_le_pow_right (by decide) hl)

/-! ## The one form that is written -/

/-- Nothing is spare in the notation of an integer: it is an optional minus sign and digits, and
zero in front stands alone. -/
structure IsCanonical (t : Text) (negative : Bool) (digits : Text) : Prop where
  eq : t = if negative then '-' :: digits else digits
  ne_nil : digits ≠ []
  isDigit : ∀ c ∈ digits, c.isDigit = true
  zero : digits.head? = some '0' → digits = ['0'] ∧ negative = false

theorem head?_ofNat_ne_zero {n : Nat} (h : n ≠ 0) : (ofNat n).head? ≠ some '0' := by
  induction n using Nat.strongRecOn with
  | ind n ih =>
    unfold ofNat at ih ⊢
    by_cases hn : n < 10
    · rw [Nat.toDigits_of_lt_base hn, List.head?_cons]
      intro he
      exact h (Nat.digitChar_eq_zero.1 (Option.some.inj he))
    · rw [Nat.toDigits_of_base_le (by decide) (by omega),
        List.head?_append_of_ne_nil _ Nat.toDigits_ne_nil]
      exact ih (n / 10) (by omega) (by omega)

theorem isCanonical_ofInt (n : Int) : IsCanonical (ofInt n) (decide (n < 0)) (ofNat n.natAbs) where
  eq := by
    cases n with
    | ofNat n => rfl
    | negSucc n => rw [if_pos (decide_eq_true (Int.negSucc_lt_zero n))]; rfl
  ne_nil := ofNat_ne_nil _
  isDigit _ hc := isDigit_of_mem_ofNat hc
  zero hz := by
    have hn : n = 0 := Int.natAbs_eq_zero.1 (Classical.byContradiction fun hn =>
      head?_ofNat_ne_zero hn hz)
    subst hn
    exact ⟨rfl, rfl⟩

/-! ## Blanks around a number -/

section
variable {before after t : Text}

theorem strip_append_left (h : ∀ c ∈ before, isBlank c = true) : strip (before ++ t) = strip t := by
  rw [strip, strip, trim, trim, List.dropWhile_append_of_pos h]

theorem strip_append_right (h : ∀ c ∈ after, isBlank c = true) : strip (t ++ after) = strip t := by
  have hnone : after.dropWhile isBlank = [] := List.dropWhile_eq_nil_iff.2 h
  rw [strip, strip, trim, trim, List.dropWhile_append]
  split
  · rename_i he
    rw [hnone, List.isEmpty_iff.1 he]
  · rw [trimEnd, trimEnd, List.reverse_append, List.dropWhile_append_of_pos]
    exact fun c hc => h c (List.mem_reverse.1 hc)

theorem read_congr {u : Text} (h : strip t = strip u) : read t = read u := by
  unfold read
  rw [h]

/-- What is written is read back, whatever blanks are around it. -/
theorem read_between_blanks (hb : ∀ c ∈ before, isBlank c = true)
    (ha : ∀ c ∈ after, isBlank c = true) {n : Int} (hn : n.natAbs < 10 ^ digitLimit) :
    read (before ++ ofInt n ++ after) = .ok n := by
  rw [read_congr (u := ofInt n), read_ofInt hn]
  rw [strip_append_right ha, strip_append_left hb]

end

end Numeral
end DfaTable
