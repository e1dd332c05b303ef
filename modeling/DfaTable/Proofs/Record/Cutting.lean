import DfaTable.Proofs.Record.Rendering
import DfaTable.Table.Writing

/-!
# DfaTable.Proofs.Record.Cutting

The text of a table is cut at its line feeds, and each line gives its record back.

* `content_eq`: what is written of records, with the lines of all or of those before one that is too
  long.
* `split_flatten_spelledLines`: cutting the text of a table gives the lines of its records.
* `fileLines_determine`: tables with the same text have the same records.
-/

namespace DfaTable
namespace Record

open Text Numeral

theorem lineFeed_notMem_ofInt (n : Int) : '\n' ∉ ofInt n := notMem_ofInt (by decide) (by decide)

theorem lineFeed_notMem_flagWords (f s : Bool) : '\n' ∉ flagWords f s := by
  cases f <;> cases s <;> decide

theorem lineFeed_notMem_spelled (r : Record) : '\n' ∉ r.spelled := by
  cases r with
  | state id f s =>
    rw [spelled_state]
    simp [lineFeed_notMem_ofInt, lineFeed_notMem_flagWords]
  | trans source target code =>
    rw [spelled_trans]
    simp [lineFeed_notMem_ofInt]
  | sentinel => decide

/-! ## What is written -/

/-- The lines of records with their ends. -/
def spelledLines (rs : List Record) : List Text := rs.map fun r => r.spelled ++ ['\n']

/-- The records before the first one that is too long. -/
def shortPart (rs : List Record) : List Record := rs.takeWhile (·.IsShort)

theorem content_eq (rs : List Record) :
    content rs = { texts := spelledLines (shortPart rs)
                   givenUp := if ∀ r ∈ rs, r.IsShort then none else some .tooLongToWrite } := by
  induction rs with
  | nil => rfl
  | cons r rs ih =>
    unfold content shortPart
    by_cases h : r.IsShort
    · rw [render?_of_isShort h, ih, List.takeWhile_cons_of_pos (by simpa using h)]
      simp [h, spelledLines, shortPart]
    · rw [render?_of_not_isShort h, List.takeWhile_cons_of_neg (by simpa using h)]
      simp [h, spelledLines]

theorem content_of_isShort {rs : List Record} (h : ∀ r ∈ rs, r.IsShort) :
    content rs = { texts := spelledLines rs } := by
  rw [content_eq, if_pos h, shortPart, List.takeWhile_eq_self_iff.2 (by simpa using h)]

/-! ## What is read of it -/

/-- Behind the last line feed there is one more piece, which is empty. -/
theorem split_flatten_spelledLines (rs : List Record) :
    split '\n' (spelledLines rs).flatten = rs.map spelled ++ [[]] := by
  induction rs with
  | nil => rfl
  | cons r rs ih =>
    have hr : (spelledLines (r :: rs)).flatten = r.spelled ++ '\n' :: (spelledLines rs).flatten := by
      rw [spelledLines, List.map_cons, List.flatten_cons, List.append_assoc]
      rfl
    rw [hr, split_cons_of_notMem (lineFeed_notMem_spelled r), ih]
    rfl

theorem flatten_spelledLines_injective :
    Function.Injective fun rs : List Record => (spelledLines rs).flatten := by
  intro rs rs' h
  have hs := congrArg (split '\n') h
  rw [split_flatten_spelledLines, split_flatten_spelledLines] at hs
  exact (List.map_inj_right fun _ _ he => spelled_injective he).1 (List.append_cancel_right hs)

/-- The text of a table determines its records, in their order, whatever the length of the numbers in
it. No line has a line feed in it, two records never have one line, and no other record has the line
of the sentinel. Of records with numbers that are short enough, these are the lines that are written,
and no other record has one. -/
theorem fileLines_determine :
    (∀ rs rs' : List Record, (spelledLines rs).flatten = (spelledLines rs').flatten → rs = rs') ∧
    (∀ r : Record, '\n' ∉ r.spelled) ∧
    (∀ r r' : Record, r ≠ r' → r.spelled ≠ r'.spelled) ∧
    (∀ r : Record, r.spelled = sentinel.spelled ↔ r = sentinel) ∧
    (∀ (r : Record) (line : Text), r.render? = some line ↔ r.IsShort ∧ line = r.spelled) ∧
    ∀ rs : List Record, (∀ r ∈ rs, r.IsShort) → content rs = { texts := spelledLines rs } :=
  ⟨fun _ _ h => flatten_spelledLines_injective h, lineFeed_notMem_spelled,
    fun _ _ hne => spelled_injective.ne hne, fun _ => spelled_injective.eq_iff,
    fun _ _ => render?_eq_some_iff, fun _ h => content_of_isShort h⟩

end Record
end DfaTable
