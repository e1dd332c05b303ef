import DfaTable.Proofs.Numeral.Canonical
import DfaTable.Proofs.Table.Control

/-!
# DfaTable.Proofs.Table.Numbers

The numbers in the lines of a table. Whatever the spelling in the document was, a line has the one
notation that is written, and the strict reading gets the number back from it.

* `split_spelled`: the fields of a line, which stand between its spaces.
* `exists_line_of_loaded`: no number of a document that was loaded is too long for its line.
* `numbers_read_back`: what reading a number comes to, and that the lines give their numbers back.
-/

namespace DfaTable

open Text Markup Numeral

/-! ## The fields of a line -/

namespace Record

/-- The word that a line begins with. -/
def keyword : Record → Text
  | state .. => "def".toList
  | trans .. => "trans".toList
  | sentinel => "eof".toList

/-- The fields behind the numbers. -/
def words : Record → List Text
  | state _ isFinal isStart => split ' ' (flagWords isFinal isStart)
  | trans .. => []
  | sentinel => []

theorem split_spelled (r : Record) :
    split ' ' r.spelled = r.keyword :: (r.numbers.map ofInt ++ r.words) := by
  cases r with
  | state id f s =>
    have hr : (state id f s).spelled = "def".toList ++ ' ' :: (ofInt id ++ ' ' :: flagWords f s) :=
      spelled_state id f s
    rw [hr, split_cons_of_notMem (by decide), split_cons_of_notMem (space_notMem_ofInt id)]
    rfl
  | trans source target code =>
    have hr : (trans source target code).spelled =
        "trans".toList ++ ' ' :: (ofInt source ++ ' ' :: (ofInt target ++ ' ' :: ofInt code)) :=
      spelled_trans source target code
    rw [hr, split_cons_of_notMem (by decide), split_cons_of_notMem (space_notMem_ofInt source),
      split_cons_of_notMem (space_notMem_ofInt target), split_of_notMem (space_notMem_ofInt code)]
    rfl
  | sentinel => rfl

end Record

/-- A field has an integer in its one notation, and the strict reading gets it back. -/
structure Gives (field : Text) (n : Int) : Prop where
  isCanonical : ∃ negative digits, IsCanonical field negative digits
  read : Numeral.read field = .ok n

theorem gives_ofInt {n : Int} (h : n.natAbs < 10 ^ digitLimit) : Gives (ofInt n) n :=
  ⟨⟨_, _, isCanonical_ofInt n⟩, read_ofInt h⟩

theorem forall₂_gives {ns : List Int} (h : ∀ n ∈ ns, n.natAbs < 10 ^ digitLimit) :
    List.Forall₂ Gives (ns.map ofInt) ns := by
  induction ns with
  | nil => exact .nil
  | cons n ns ih =>
    exact .cons (gives_ofInt (h n (List.mem_cons_self ..)))
      (ih fun m hm => h m (List.mem_cons_of_mem _ hm))

/-- Every record in the table of a document that was loaded has a line, in which each number stands
in its one notation. -/
theorem exists_line_of_loaded {path : Text} {s : Source} {a : Automaton}
    (h : loadSource path s = .ok (.ok a)) {r : Record} (hr : r ∈ (Table.ofAutomaton a).records) :
    ∃ line fields words, r.render? = some line ∧
      split ' ' line = r.keyword :: (fields ++ words) ∧ List.Forall₂ Gives fields r.numbers := by
  have hshort := (Table.forall_isShort_iff a).2 (hasShortNumbers_of_loaded h) r hr
  exact ⟨_, _, r.words, Record.render?_of_isShort hshort, r.split_spelled, forall₂_gives hshort⟩

/-- A text is refused as a number unless it is an optional minus sign and ASCII digits between
blanks; of this form it is too long with more digits than the limit, and otherwise read as what its
digits denote. What is written of a number within the limit is read back, whatever blanks are around
it. So all numbers of a document that was loaded are within the limit, and the fields of each line of
its table have them in the one notation that is written and give them back. -/
theorem numbers_read_back :
    (∀ t : Text,
      (Numeral.read t = .error .malformed ↔ ∀ negative digits, ¬ Spells t negative digits) ∧
      ∀ negative digits, Spells t negative digits → Numeral.read t =
        if digitLimit < digits.length then .error (.tooLong digits.length)
        else .ok (value negative digits)) ∧
    (∀ (n : Int) (before after : Text), n.natAbs < 10 ^ digitLimit →
      (∀ c ∈ before, isBlank c = true) → (∀ c ∈ after, isBlank c = true) →
      Numeral.read (before ++ ofInt n ++ after) = .ok n) ∧
    ∀ (path : Text) (s : Source) (a : Automaton), loadSource path s = .ok (.ok a) →
      (∀ q ∈ a.states, q.id.natAbs < 10 ^ digitLimit) ∧
      (∀ t ∈ a.transitions,
        t.source.natAbs < 10 ^ digitLimit ∧ t.target.natAbs < 10 ^ digitLimit) ∧
      ∀ r ∈ (Table.ofAutomaton a).records, ∃ line fields words, r.render? = some line ∧
        split ' ' line = r.keyword :: (fields ++ words) ∧
          List.Forall₂ Gives fields r.numbers := by
  refine ⟨fun t => ⟨read_eq_malformed_iff, fun negative digits h => read_of_spells h⟩,
    fun n before after hn hb ha => read_between_blanks hb ha hn, fun path s a h => ?_⟩
  exact ⟨fun q hq => natAbs_id_lt h hq, fun t ht => natAbs_ends_lt h ht,
    fun r hr => exists_line_of_loaded h hr⟩

/-- A document with one state, whose number has zeros in front and stands between blanks. -/
def paddedState : Source := .text "<a><state id=' -007 '/></a>".toList

set_option maxRecDepth 10000 in
/-- The number is read as it is meant, and the line of the state has it without blanks and zeros. -/
theorem numbers_read_back_paddedState :
    Spells " -007 ".toList true "007".toList ∧ Numeral.read " -007 ".toList = .ok (-7) ∧
    Numeral.read ([' '] ++ ofInt (-7) ++ [' ']) = .ok (-7) ∧
    loadSource [] paddedState = .ok (.ok ⟨[{ id := -7 }], [], none⟩) ∧
    ∃ line fields words, (Record.state (-7) false false).render? = some line ∧
      split ' ' line = "def".toList :: (fields ++ words) ∧ List.Forall₂ Gives fields [-7] := by
  obtain ⟨hread, hback, hloaded⟩ := numbers_read_back
  have hs : Spells " -007 ".toList true "007".toList := ⟨by decide, by decide, by simp⟩
  have hblank : ∀ c ∈ [' '], isBlank c = true := List.forall_mem_singleton.2 isBlank_space
  have hload : loadSource [] paddedState = .ok (.ok ⟨[{ id := -7 }], [], none⟩) := by
    decide +kernel
  have hlimit : (-7 : Int).natAbs < 10 ^ digitLimit :=
    Nat.lt_of_lt_of_le (show 7 < 10 ^ 1 by decide) (Nat.pow_le_pow_right (by decide) (by decide))
  refine ⟨hs, ?_, hback (-7) [' '] [' '] hlimit hblank hblank, hload, ?_⟩
  · rw [(hread _).2 true _ hs, if_neg (by decide)]
    rfl
  · exact (hloaded _ _ _ hload).2.2 _ (List.mem_cons_self ..)

end DfaTable
