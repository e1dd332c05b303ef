import DfaTable.Text.Blank

/-!
# DfaTable.Proofs.Text.Pieces

The pieces of a text between separators, said without cutting it up.

* `mem_split_iff`: a piece stands between two separators, or between one and an end of the text.
* `cuts_iff`: only one list of pieces is cut out of a text.
* `append_cons_inj`: the first separator of a text is in one place only.
-/

namespace DfaTable
namespace Text

/-- A text that is empty or begins with a separator. -/
def IsTail (sep : Char) (t : Text) : Prop := t = [] ∨ ∃ u, t = sep :: u

/-- A text that is empty or ends with a separator. -/
def IsStart (sep : Char) (t : Text) : Prop := t = [] ∨ ∃ u, t = u ++ [sep]

/-- Pieces without separators that are a text when they are joined with separators. -/
structure Cuts (sep : Char) (pieces : List Text) (whole : Text) : Prop where
  ne_nil : pieces ≠ []
  notMem : ∀ piece ∈ pieces, sep ∉ piece
  join_eq : join [sep] pieces = whole

/-- A text without separators, with one or an end of the whole text on either side. -/
def IsPiece (sep : Char) (piece whole : Text) : Prop :=
  sep ∉ piece ∧ ∃ before after, IsStart sep before ∧ IsTail sep after ∧
    whole = before ++ piece ++ after

theorem beq_false_of_notMem {sep : Char} {t : Text} (h : sep ∉ t) :
    ∀ c ∈ t, (c == sep) = false := by
  intro c hc
  refine Bool.eq_false_iff.2 fun he => h ?_
  rw [← eq_of_beq he]
  exact hc

theorem notMem_of_mem_split {sep : Char} {t piece : Text} (h : piece ∈ split sep t) :
    sep ∉ piece := by
  intro hm
  have := neg_of_mem_splitP h sep hm
  simp at this

theorem split_of_notMem {sep : Char} {t : Text} (h : sep ∉ t) : split sep t = [t] :=
  splitP_of_all_neg (beq_false_of_notMem h)

theorem split_append_cons (sep : Char) (t u : Text) :
    split sep (t ++ sep :: u) = split sep t ++ split sep u :=
  splitP_append_words (by simp) t u

theorem split_cons_of_notMem {sep : Char} {t : Text} (h : sep ∉ t) (u : Text) :
    split sep (t ++ sep :: u) = t :: split sep u := by
  rw [split_append_cons, split_of_notMem h]
  rfl

theorem isTail_join (sep : Char) (pieces : List Text) :
    ∃ t, IsTail sep t ∧ ∀ first, join [sep] (first :: pieces) = first ++ t := by
  cases pieces with
  | nil => exact ⟨[], .inl rfl, fun first => by simp⟩
  | cons second more =>
    refine ⟨sep :: join [sep] (second :: more), .inr ⟨_, rfl⟩, fun first => ?_⟩
    rw [join_cons_cons, List.append_assoc]
    rfl

theorem isStart_join (sep : Char) (pieces : List Text) :
    ∃ t, IsStart sep t ∧
      ∀ last more, join [sep] (pieces ++ last :: more) = t ++ join [sep] (last :: more) := by
  induction pieces with
  | nil => exact ⟨[], .inl rfl, fun last more => rfl⟩
  | cons first pieces ih =>
    obtain ⟨t, ht, h⟩ := ih
    refine ⟨first ++ sep :: t, .inr ?_, fun last more => ?_⟩
    · rcases ht with rfl | ⟨u, rfl⟩
      · exact ⟨first, rfl⟩
      · exact ⟨first ++ sep :: u, by simp⟩
    · have hj : join [sep] (first :: (pieces ++ last :: more)) =
          first ++ [sep] ++ join [sep] (pieces ++ last :: more) := by
        cases pieces <;> rfl
      rw [List.cons_append, hj, h]
      simp

theorem isPiece_of_mem_split {sep : Char} {piece whole : Text} (h : piece ∈ split sep whole) :
    IsPiece sep piece whole := by
  refine ⟨notMem_of_mem_split h, ?_⟩
  obtain ⟨front, back, hs⟩ := List.append_of_mem h
  obtain ⟨before, hb, hj⟩ := isStart_join sep front
  obtain ⟨after, ha, hk⟩ := isTail_join sep back
  refine ⟨before, after, hb, ha, ?_⟩
  rw [← join_split sep whole, hs, hj, hk, List.append_assoc]

theorem mem_split_of_isPiece {sep : Char} {piece whole : Text} (h : IsPiece sep piece whole) :
    piece ∈ split sep whole := by
  obtain ⟨hp, before, after, hb, ha, rfl⟩ := h
  have hm : piece ∈ split sep (piece ++ after) := by
    rcases ha with rfl | ⟨u, rfl⟩
    · simp [split_of_notMem hp]
    · simp [split_cons_of_notMem hp]
  rcases hb with rfl | ⟨u, rfl⟩
  · exact hm
  · rw [List.append_assoc, List.append_assoc, List.singleton_append, split_append_cons]
    exact List.mem_append_right _ hm

theorem mem_split_iff {sep : Char} {piece whole : Text} :
    piece ∈ split sep whole ↔ IsPiece sep piece whole :=
  ⟨isPiece_of_mem_split, mem_split_of_isPiece⟩

theorem cuts_iff {sep : Char} {pieces : List Text} {whole : Text} :
    Cuts sep pieces whole ↔ pieces = split sep whole := by
  constructor
  · rintro ⟨hne, hp, rfl⟩
    exact (split_join hne hp).symm
  · rintro rfl
    exact ⟨split_ne_nil sep whole, fun _ => notMem_of_mem_split, join_split sep whole⟩

theorem append_cons_inj {sep : Char} {a b t u : Text} (ha : sep ∉ a) (hb : sep ∉ b)
    (h : a ++ sep :: t = b ++ sep :: u) : a = b ∧ t = u := by
  have hs := congrArg (split sep) h
  rw [split_cons_of_notMem ha, split_cons_of_notMem hb] at hs
  obtain rfl := (List.cons.inj hs).1
  exact ⟨rfl, (List.cons.inj (List.append_cancel_left h)).2⟩

end Text
end DfaTable
