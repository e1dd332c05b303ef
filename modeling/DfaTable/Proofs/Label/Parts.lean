import DfaTable.Proofs.Label.Grammar
import DfaTable.Proofs.Text.Collapsed

/-!
# DfaTable.Proofs.Label.Parts

What a classified label still tells of its text. Nothing of the label is lost: the text is kept, and
the parts found in it are the ones that it is put together from.

* `classify_of_isClause`, `classify_of_isRange`: the parts of an `any but` clause and of a range.
* `exclusions_classify_iff`, `bounds_classify_iff`: no other label has parts.
* `classify_lossless`: both together, with the parts found again in what is put together from them.
-/

namespace DfaTable
namespace Label

open Text

/-- The form of a range: two characters with the only tilde between them. -/
def IsRange (label : Text) (first last : Char) : Prop :=
  first ≠ '~' ∧ last ≠ '~' ∧ label = [first, '~', last]

/-- Texts that the list of an `any but` clause can be made of. -/
structure ArePieces (pieces : List Text) : Prop where
  ne_nil : pieces ≠ []
  space_notMem : ∀ piece ∈ pieces, ' ' ∉ piece
  bar_notMem : ∀ piece ∈ pieces, '|' ∉ piece

/-- The `any but` clause with a list of pieces, with letters glued to `any` and with what follows
the list. -/
def clause (glued : Text) (pieces : List Text) (t : Text) : Text :=
  anyWord ++ glued ++ ' ' :: butWord ++ ' ' :: join ['|'] pieces ++ t

variable {label : Text}

/-! ## The parts of each form -/

theorem ArePieces.cuts {pieces : List Text} (h : ArePieces pieces) :
    Cuts '|' pieces (join ['|'] pieces) := ⟨h.ne_nil, h.bar_notMem, rfl⟩

theorem ArePieces.isClause {pieces : List Text} (h : ArePieces pieces) {glued t : Text}
    (hg : ' ' ∉ glued) (ht : IsTail ' ' t) :
    IsClause (clause glued pieces t) (join ['|'] pieces) := by
  refine ⟨glued, t, hg, fun hm => ?_, ht, rfl⟩
  rcases mem_join hm with hm | ⟨piece, hp, hm⟩
  · exact absurd hm (by decide)
  · exact h.space_notMem piece hp hm

theorem classify_of_isClause {list : Text} (h : IsClause label list) :
    classify label = { label, shape := .anyBut, exclusions := some (split '|' list) } := by
  have hx := h.exclusions?_eq
  obtain ⟨rest, hr, rfl⟩ := h.form
  rw [classify_any_append hr, hx]

theorem classify_of_isRange {first last : Char} (h : IsRange label first last)
    (hb : first ≠ '\\') :
    classify label = { label, shape := .range, bounds := some [[first], [last]] } := by
  obtain ⟨hf, hl, rfl⟩ := h
  rw [(isPlain_range hb).classify_eq, if_pos (by simp),
    bounds?_eq_some_iff.2 ⟨first, last, hf, hl, rfl, rfl⟩]

/-! ## No parts elsewhere -/

theorem exclusions_classify_iff {pieces : List Text} :
    (classify label).exclusions = some pieces ↔
      (classify label).shape = .anyBut ∧ ∃ list, IsClause label list ∧ Cuts '|' pieces list := by
  constructor
  · intro h
    rcases forms label with rfl | ⟨c, rfl⟩ | ⟨selector, rest, rfl⟩ | rfl | ⟨rest, rfl⟩ | hp
    · cases h
    · simp [classify] at h
    · simp [classify, isEscape] at h
    · cases h
    · by_cases hr : rest = []
      · rw [hr] at h
        cases h
      · rw [classify_any_append hr] at h ⊢
        obtain ⟨list, hc, hs⟩ := isClause_of_exclusions? h
        exact ⟨rfl, list, hc, cuts_iff.2 hs⟩
    · rw [hp.classify_eq] at h
      split at h <;> cases h
  · rintro ⟨-, list, hc, hp⟩
    rw [classify_of_isClause hc, cuts_iff.1 hp]

theorem bounds_classify_iff {texts : List Text} :
    (classify label).bounds = some texts ↔
      (classify label).shape = .range ∧
        ∃ first last, IsRange label first last ∧ texts = [[first], [last]] := by
  constructor
  · intro h
    rcases forms label with rfl | ⟨c, rfl⟩ | ⟨selector, rest, rfl⟩ | rfl | ⟨rest, rfl⟩ | hp
    · cases h
    · simp [classify] at h
    · simp [classify, isEscape] at h
    · cases h
    · by_cases hr : rest = []
      · rw [hr] at h
        cases h
      · rw [classify_any_append hr] at h
        cases h
    · rw [hp.classify_eq] at h ⊢
      split at h
      · rename_i ht
        rw [if_pos ht]
        obtain ⟨first, last, hf, hl, he, htexts⟩ := bounds?_eq_some_iff.1 h
        exact ⟨rfl, first, last, ⟨hf, hl, he⟩, htexts⟩
      · cases h
  · rintro ⟨hs, first, last, hr, rfl⟩
    have hb : first ≠ '\\' := by
      rintro rfl
      rw [hr.2.2] at hs
      simp [classify, isEscape] at hs
    rw [classify_of_isRange hr hb]

/-! ## Nothing is lost -/

/-- A label has exclusions just where it is a clause, and they are the only pieces that its list can
be made of; it has bounds just where it is a range, and they are its two characters. Whatever clause
is made of pieces, and whatever range of characters, is classified with these as its parts. -/
theorem classify_lossless (label : Text) :
    (classify label).label = label ∧
    (((classify label).exclusions.isSome = true ↔
        (classify label).shape = .anyBut ∧ ∃ list, IsClause label list) ∧
      ∀ pieces list, (classify label).exclusions = some pieces → IsClause label list →
        ∀ others, Cuts '|' others list ↔ others = pieces) ∧
    (((classify label).bounds.isSome = true ↔
        (classify label).shape = .range ∧ ∃ first last, IsRange label first last) ∧
      ∀ texts first last, (classify label).bounds = some texts → IsRange label first last →
        texts = [[first], [last]]) ∧
    (∀ glued pieces t, ' ' ∉ glued → ArePieces pieces → IsTail ' ' t →
      (classify (clause glued pieces t)).shape = .anyBut ∧
        (classify (clause glued pieces t)).exclusions = some pieces) ∧
    (∀ first last, first ≠ '~' → last ≠ '~' → first ≠ '\\' →
      (classify [first, '~', last]).shape = .range ∧
        (classify [first, '~', last]).bounds = some [[first], [last]]) := by
  refine ⟨label_classify label, ⟨?_, ?_⟩, ⟨?_, ?_⟩, ?_, ?_⟩
  · rw [Option.isSome_iff_exists]
    constructor
    · rintro ⟨pieces, h⟩
      obtain ⟨hs, list, hc, -⟩ := exclusions_classify_iff.1 h
      exact ⟨hs, list, hc⟩
    · rintro ⟨hs, list, hc⟩
      exact ⟨_, exclusions_classify_iff.2 ⟨hs, list, hc, cuts_iff.2 rfl⟩⟩
  · intro pieces list h hc others
    rw [classify_of_isClause hc] at h
    rw [cuts_iff, ← Option.some.inj h]
  · rw [Option.isSome_iff_exists]
    constructor
    · rintro ⟨texts, h⟩
      obtain ⟨hs, first, last, hr, -⟩ := bounds_classify_iff.1 h
      exact ⟨hs, first, last, hr⟩
    · rintro ⟨hs, first, last, hr⟩
      exact ⟨_, bounds_classify_iff.2 ⟨hs, first, last, hr, rfl⟩⟩
  · rintro texts first last h ⟨-, -, he⟩
    obtain ⟨-, a, b, ⟨-, -, he'⟩, rfl⟩ := bounds_classify_iff.1 h
    rw [he, List.cons.injEq, List.cons.injEq, List.cons.injEq] at he'
    rw [he'.1, he'.2.2.1]
  · intro glued pieces t hg hp ht
    rw [classify_of_isClause (hp.isClause hg ht), ← cuts_iff.1 hp.cuts]
    exact ⟨rfl, rfl⟩
  · intro first last hf hl hb
    rw [classify_of_isRange ⟨hf, hl, rfl⟩ hb]
    exact ⟨rfl, rfl⟩

/-- Empty pieces are kept, also the last. -/
theorem classify_lossless_empty_pieces :
    let pieces : List Text := [[], ['a', '~', 'b'], []]
    ArePieces pieces ∧
      (classify (clause ['x'] pieces [' '])).exclusions = some pieces := by
  intro pieces
  have hp : ArePieces pieces := ⟨by decide, by decide, by decide⟩
  have hw : ' ' ∉ ['x'] := by decide
  obtain ⟨-, -, -, hclause, -⟩ := classify_lossless []
  exact ⟨hp, (hclause ['x'] pieces [' '] hw hp (.inr ⟨[], rfl⟩)).2⟩

end Label
end DfaTable
