import DfaTable.Markup.Symbol
import DfaTable.Proofs.Label.Grammar
import DfaTable.Proofs.Text.Collapsed

/-!
# DfaTable.Proofs.Label.Control

Which labels accept a code below the visible characters, if no blank stands at an end of them and
they hold only what markup can hold: escapes and the end of the input, and no other form.

* `Accepts.namesControl`: such a label has one of the forms of `NamesControl`.
* `NamesControl.shape`: each of these forms is an escape or the word for the end of the input.
-/

namespace DfaTable
namespace Label

open Text Markup

/-- The labels that name the end of the input, a control character or the space. -/
inductive NamesControl : Text → Int → Prop where
  | endOfInput : NamesControl endOfInputWord (-1)
  | unknown {c : Char} (t : Text) :
      c ∉ ['\\', 'n', 't', 'r', 'v', 'b'] → NamesControl ('\\' :: c :: t) 0
  | tab (t : Text) : NamesControl ('\\' :: 't' :: t) 9
  | lineFeed (t : Text) : NamesControl ('\\' :: 'n' :: t) 10
  | carriageReturn (t : Text) : NamesControl ('\\' :: 'r' :: t) 13
  | space : NamesControl ['\\', 'b', 's'] 32

/-! ## Forms -/

theorem shape_escape (selector : Char) (rest : Text) :
    (expand ('\\' :: selector :: rest)).shape = .escape := by
  rw [shape_expand]
  simp [classify, isEscape]

theorem shape_endOfInput : (expand endOfInputWord).shape = .endOfInput := by
  rw [shape_expand]
  rfl

theorem NamesControl.shape {label : Text} {code : Int} (h : NamesControl label code) :
    (expand label).shape = .escape ∨ (expand label).shape = .endOfInput := by
  cases h with
  | endOfInput => exact .inr shape_endOfInput
  | unknown => exact .inl (shape_escape ..)
  | tab => exact .inl (shape_escape ..)
  | lineFeed => exact .inl (shape_escape ..)
  | carriageReturn => exact .inl (shape_escape ..)
  | space => exact .inl (shape_escape ..)

/-! ## Characters -/

/-- The characters of markup that are no blanks are all visible, or beyond ASCII. -/
theorem visible_of_not_blank {c : Char} (hx : isChar c = true) (hb : isBlank c = false) :
    33 ≤ c.toNat := by
  simp only [isChar, Bool.or_eq_true, Bool.and_eq_true, beq_iff_eq, decide_eq_true_eq] at hx
  refine Nat.le_of_not_lt fun hlt => ?_
  have hsmall : c.toNat < 128 := by omega
  simp only [isBlank, hsmall, if_true, Bool.or_eq_false_iff, beq_eq_false_iff_ne, ne_eq,
    Bool.and_eq_false_iff, decide_eq_false_iff_not] at hb
  omega

/-- A collapsed text does not begin with a blank. -/
theorem not_isBlank_head {c : Char} {rest : Text} (h : IsCollapsed (c :: rest)) :
    isBlank c = false := by
  rw [← Bool.not_eq_true]
  intro hb
  obtain ⟨-, ⟨b, hl, -⟩, -⟩ := h [] c rest rfl hb
  cases hl

theorem EscapeMeans.namesControl {label : Text} {code : Int} (h : EscapeMeans label code)
    (hc : code < 33) : NamesControl label code := by
  cases h with
  | backslash => omega
  | lineFeed t => exact .lineFeed t
  | tab t => exact .tab t
  | carriageReturn t => exact .carriageReturn t
  | bar => omega
  | letterV => omega
  | space => exact .space
  | letterB => omega
  | unknown t hn => exact .unknown t hn

/-- Below the visible characters a collapsed label accepts only what it names. -/
theorem Accepts.namesControl {label : Text} {code : Int} (h : Accepts label code)
    (hl : IsCollapsed label) (hx : ∀ c ∈ label, isChar c = true) (hc : code < 33) :
    NamesControl label code := by
  -- A literal and a range accept no code below that of their first character.
  have hfirst : ∀ first rest, label = first :: rest → ¬ (first.toNat : Int) ≤ code := by
    rintro first rest rfl hle
    have := visible_of_not_blank (hx first (List.mem_cons_self ..)) (not_isBlank_head hl)
    omega
  cases h with
  | literal c => exact absurd (Int.le_refl _) (hfirst c [] rfl)
  | escape he => exact he.namesControl hc
  | endOfInput => exact .endOfInput
  | any h1 => omega
  | anyBut _ h1 => omega
  | range _ _ _ h1 => exact absurd h1 (hfirst _ _ rfl)

end Label
end DfaTable
