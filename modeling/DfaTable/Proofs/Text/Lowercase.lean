import DfaTable.Text.Case
import Mathlib.Data.List.Basic

/-!
# DfaTable.Proofs.Text.Lowercase

Lower case that comes to a word in ASCII. Only one capital outside of ASCII has its small letter
there: the kelvin sign, with a `k`. So a word in ASCII without that letter has the same spellings
whether the letters of all scripts are put into lower case or those of ASCII only.

* `isAscii_of_lowercaseFrom`: a text with such a word in lower case is in ASCII itself.
* `lowercase_eq_iff`: both notions of lower case come to the same words.
-/

namespace DfaTable.Text

/-- A text in ASCII without the letter that has a capital elsewhere. -/
def IsOwnLower (t : Text) : Prop := ∀ c ∈ t, c.toNat < 128 ∧ c ≠ 'k'

/-- The small letters of capitals outside of ASCII are outside of it too, but for that of the kelvin
sign, and are characters. -/
theorem capitals_outside : ∀ r ∈ capitals, (r.first < 128 → r.last < 128) ∧
    (128 ≤ r.first → (128 ≤ (r.first : Int) + r.shift ∨
      r.first = 0x212A ∧ r.last = 0x212A ∧ r.shift = -8383) ∧
      ((r.last : Int) + r.shift < 0xD800 ∨
        0xE000 ≤ (r.first : Int) + r.shift ∧ (r.last : Int) + r.shift < 0x110000)) := by
  decide +kernel

theorem isAscii_of_lowercaseOf {c : Char} (h : (lowercaseOf c).toNat < 128)
    (hk : lowercaseOf c ≠ 'k') : c.toNat < 128 := by
  refine Nat.not_le.1 fun hc => ?_
  unfold lowercaseOf at h hk
  split at h
  · next r hr =>
    rw [hr] at hk
    dsimp only at hk
    obtain ⟨hlow, hhigh⟩ := capitals_outside r (List.mem_of_find?_eq_some hr)
    have hholds := List.find?_some hr
    simp only [Capitals.holds, Bool.and_eq_true, decide_eq_true_eq] at hholds
    obtain ⟨⟨hfirst, hlast⟩, -⟩ := hholds
    obtain ⟨hout, hvalid⟩ := hhigh (by omega)
    -- The number of the small letter is that of a character, so it is not lost.
    have hchar : Nat.isValidChar ((c.toNat : Int) + r.shift).toNat := by
      rcases hvalid with hv | hv
      · left; omega
      · right; omega
    have hn : (Char.ofNat ((c.toNat : Int) + r.shift).toNat).toNat =
        ((c.toNat : Int) + r.shift).toNat := by
      rw [Char.ofNat, dif_pos hchar]
      rfl
    rw [hn] at h
    rcases hout with hout | ⟨hf, hl, hs⟩
    · omega
    · have hkelvin : c.toNat = 0x212A := by omega
      rw [hs, hkelvin] at hk
      exact hk (by decide)
  · exact absurd h (Nat.not_lt.2 hc)

/-- Only ASCII letters have such a word as their lower case. -/
theorem isAscii_of_lowercaseFrom {before t : Text} (h : IsOwnLower (lowercaseFrom before t)) :
    ∀ c ∈ t, c.toNat < 128 := by
  induction t generalizing before with
  | nil => exact List.forall_mem_nil _
  | cons c rest ih =>
    rw [lowercaseFrom] at h
    have hsmall := fun d hd => h d (List.mem_append_left _ hd)
    refine List.forall_mem_cons.2 ⟨?_, ih fun d hd => h d (List.mem_append_right _ hd)⟩
    split at hsmall
    · exact absurd (hsmall '\u0307' (by simp)).1 (by decide)
    · split at hsmall
      · exact absurd (hsmall '\u03C2' (by simp)).1 (by decide)
      · obtain ⟨hlt, hne⟩ := hsmall _ (List.mem_singleton.2 rfl)
        exact isAscii_of_lowercaseOf hlt hne

theorem isAscii_of_lower {t : Text} (h : ∀ c ∈ lower t, c.toNat < 128) :
    ∀ c ∈ t, c.toNat < 128 := by
  intro c hc
  have hlow := h c.toLower (List.mem_map_of_mem hc)
  unfold Char.toLower at hlow
  split at hlow
  · next hu =>
    have hle : c.toNat ≤ 'Z'.toNat := hu.2
    exact Nat.lt_of_le_of_lt hle (by decide)
  · exact hlow

theorem lowercase_eq_iff {t w : Text} (hw : IsOwnLower w) : lowercase t = w ↔ lower t = w := by
  constructor
  · rintro rfl
    exact (lowercase_eq_lower (isAscii_of_lowercaseFrom hw)).symm
  · rintro rfl
    exact lowercase_eq_lower (isAscii_of_lower fun c hc => (hw c hc).1)

theorem lowercase_mem_iff {t : Text} {words : List Text} (hw : ∀ w ∈ words, IsOwnLower w) :
    lowercase t ∈ words ↔ lower t ∈ words := by
  constructor
  · intro h
    rwa [(lowercase_eq_iff (hw _ h)).1 rfl]
  · intro h
    rwa [(lowercase_eq_iff (hw _ h)).2 rfl]

end DfaTable.Text
