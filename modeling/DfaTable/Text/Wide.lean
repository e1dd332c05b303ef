import DfaTable.Text

/-!
# DfaTable.Text.Wide

Texts as code points. Settings may name halves of the pairs that stand for large code points in
16-bit units, which are no characters. Main statement: `text?_eq_some_iff`, by which a wide text
without halves is a text.
-/

namespace DfaTable

/-- A code point: a character, or the half of a pair with a number. -/
inductive CodePoint where
  | char (c : Char)
  | half (h : Fin 0x800)
deriving DecidableEq, Repr

namespace CodePoint

/-- The code point of a number below `0x110000`. -/
def ofNat (n : Nat) : CodePoint :=
  if h : 0xD800 ≤ n ∧ n < 0xE000 then .half ⟨n - 0xD800, by omega⟩ else .char (Char.ofNat n)

/-- The number of a half. -/
def halfNumber (h : Fin 0x800) : Nat := 0xD800 + h

def char? : CodePoint → Option Char
  | .char c => some c
  | .half _ => none

def isHalf (p : CodePoint) : Bool := p.char?.isNone

theorem char?_eq_some_iff {p : CodePoint} {c : Char} : p.char? = some c ↔ p = .char c := by
  cases p <;> simp [char?]

end CodePoint

/-- A text that may hold halves of pairs. -/
abbrev WideText := List CodePoint

/-- A text as code points. -/
def Text.wide (t : Text) : WideText := t.map .char

namespace WideText

open Text

/-- The text, if there are no halves in it. -/
def text? (t : WideText) : Option Text := t.mapM CodePoint.char?

/-- The text with a replacement character for every half. It looks like the wide text wherever a
half is no better than any other character that has no meaning. -/
def shape (t : WideText) : Text := t.map fun p => p.char?.getD '\uFFFD'

/-- Changes the runs of characters between halves; `run` is the one before, backwards. -/
def mapRunsFrom (f : Text → Text) (run : Text) : WideText → WideText
  | [] => wide (f run.reverse)
  | .char c :: rest => mapRunsFrom f (c :: run) rest
  | .half h :: rest => wide (f run.reverse) ++ .half h :: mapRunsFrom f [] rest

def mapRuns (f : Text → Text) (t : WideText) : WideText := mapRunsFrom f [] t

theorem text?_eq_some_iff {w : WideText} {t : Text} : w.text? = some t ↔ w = t.wide := by
  unfold text? wide
  induction w generalizing t with
  | nil => simp [eq_comm]
  | cons p w ih => cases t <;> simp [Option.bind_eq_some_iff, CodePoint.char?_eq_some_iff, ih]

@[simp] theorem text?_wide (t : Text) : t.wide.text? = some t := text?_eq_some_iff.2 rfl

@[simp] theorem shape_wide (t : Text) : t.wide.shape = t := by
  unfold shape wide
  rw [List.map_map]
  exact List.map_id t

end WideText
end DfaTable
