import DfaTable.Text

/-!
# DfaTable.Text.Blank

The blank characters (`isBlank`), the words of a text between them (`words`), and the
collapsed form in which labels are compared (`collapse`). Main statements: `words_join` (words
survive being joined with single spaces) and `collapse_collapse`.
-/

namespace DfaTable.Text

/-- The code points with the white-space property, outside the ASCII range 0 to 127. -/
def blankCodes : List Nat :=
  [0x85, 0xA0, 0x1680, 0x2000, 0x2001, 0x2002, 0x2003, 0x2004, 0x2005, 0x2006, 0x2007, 0x2008,
   0x2009, 0x200A, 0x2028, 0x2029, 0x202F, 0x205F, 0x3000]

/-- White space: tab to carriage return, the four information separators, the space, and the
characters of `blankCodes`. -/
def isBlank (c : Char) : Bool :=
  if c.toNat < 128 then
    c.toNat == 32 || (9 ≤ c.toNat && c.toNat ≤ 13) || (28 ≤ c.toNat && c.toNat ≤ 31)
  else
    blankCodes.contains c.toNat

/-- The text without the blanks at its ends. -/
def strip (t : Text) : Text := trim isBlank t

/-- The longest pieces that hold no blank, without the empty ones. -/
def words (t : Text) : List Text := (splitP isBlank t).filter (!·.isEmpty)

/-- The words with one space between neighbours. -/
def collapse (t : Text) : Text := join [' '] (words t)

theorem isBlank_space : isBlank ' ' = true := by decide

theorem splitP_append_words {p : Char → Bool} {s : Char} (hs : p s = true) (t u : Text) :
    splitP p (t ++ s :: u) = splitP p t ++ splitP p u := by
  induction t with
  | nil => simp [splitP_cons_pos hs, splitP]
  | cons c t ih =>
    cases hc : p c with
    | true => simp [splitP_cons_pos hc, ih]
    | false =>
      cases ht : splitP p t with
      | nil => exact absurd ht (splitP_ne_nil p t)
      | cons first more =>
        rw [ht] at ih
        rw [splitP_cons_neg hc ht, List.cons_append, splitP_cons_neg hc ih]
        simp

/-- A word of a text is not empty and holds no blank. -/
theorem of_mem_words {t w : Text} (h : w ∈ words t) : w ≠ [] ∧ ∀ c ∈ w, isBlank c = false := by
  obtain ⟨hm, he⟩ := List.mem_filter.1 h
  exact ⟨by simpa using he, neg_of_mem_splitP hm⟩

theorem words_of_word {w : Text} (hne : w ≠ []) (h : ∀ c ∈ w, isBlank c = false) :
    words w = [w] := by
  simp [words, splitP_of_all_neg h, hne]

theorem words_append_space (t u : Text) : words (t ++ ' ' :: u) = words t ++ words u := by
  simp [words, splitP_append_words isBlank_space]

/-- Words joined with single spaces are the words of the result. -/
theorem words_join {ws : List Text}
    (h : ∀ w ∈ ws, w ≠ [] ∧ ∀ c ∈ w, isBlank c = false) : words (join [' '] ws) = ws := by
  induction ws with
  | nil => rfl
  | cons w rest ih =>
    obtain ⟨hne, hb⟩ := h w (List.mem_cons_self ..)
    have hr := ih fun v hv => h v (List.mem_cons_of_mem _ hv)
    cases rest with
    | nil => exact words_of_word hne hb
    | cons v more =>
      rw [join_cons_cons, List.append_assoc, List.singleton_append, words_append_space, hr,
        words_of_word hne hb]
      rfl

theorem words_collapse (t : Text) : words (collapse t) = words t :=
  words_join fun _ h => of_mem_words h

/-- Collapsing is idempotent. -/
theorem collapse_collapse (t : Text) : collapse (collapse t) = collapse t := by
  unfold collapse
  rw [show words (join [' '] (words t)) = words t from words_collapse t]

end DfaTable.Text
