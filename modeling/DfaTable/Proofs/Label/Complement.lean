import DfaTable.Proofs.Label.Parts

/-!
# DfaTable.Proofs.Label.Complement

What an `any but` clause leaves of the visible characters, told by the codes of its pieces as labels
of their own.

* `exclusionCode?_eq_some_iff_mem_codes`: a piece takes away what it accepts, if it is a literal or
  an escape.
* `codes_clause`: the codes of a clause.
* `collapse_excluding`: a clause can be written for every set of visible characters, so that it
  survives being collapsed.
-/

namespace DfaTable
namespace Label

open Text

/-- A label that stands for a character, either itself or by an escape. -/
def NamesCharacter (label : Text) : Prop :=
  (classify label).shape = .literal ∨ (classify label).shape = .escape

instance (label : Text) : Decidable (NamesCharacter label) :=
  inferInstanceAs (Decidable (_ ∨ _))

variable {pieces others : List Text} {t u : Text}

/-! ## Pieces as labels -/

theorem namesCharacter_singleton (c : Char) : NamesCharacter [c] := by
  exact .inl (by simp [classify])

theorem namesCharacter_escape (selector : Char) (rest : Text) :
    NamesCharacter ('\\' :: selector :: rest) := by
  exact .inr (by simp [classify, isEscape])

/-- A label that stands for a character is one, or begins with a backslash. -/
theorem NamesCharacter.form {label : Text} (h : NamesCharacter label) :
    (∃ c, label = [c]) ∨ ∃ selector rest, label = '\\' :: selector :: rest := by
  unfold NamesCharacter at h
  rcases forms label with rfl | hc | he | rfl | ⟨rest, rfl⟩ | hp
  · simp [classify] at h
  · exact .inl hc
  · exact .inr he
  · exact absurd h (by decide)
  · by_cases hr : rest = []
    · rw [hr] at h
      exact absurd h (by decide)
    · simp [classify_any_append hr] at h
  · rw [hp.classify_eq] at h
    split at h <;> simp at h

theorem exclusionCode?_eq_some_iff_mem_codes {piece : Text} {code : Int} :
    exclusionCode? piece = some code ↔ NamesCharacter piece ∧ code ∈ codes piece := by
  constructor
  · intro h
    cases exclusionCode?_eq_some_iff.1 h with
    | literal c => exact ⟨namesCharacter_singleton c, by simp [codes]⟩
    | escape he =>
      obtain ⟨selector, rest, rfl⟩ := he.form
      exact ⟨namesCharacter_escape selector rest, mem_codes_of_accepts (.escape he)⟩
  · rintro ⟨hn, hc⟩
    rcases hn.form with ⟨c, rfl⟩ | ⟨selector, rest, rfl⟩
    · rw [codes, codes_singleton, List.mem_singleton] at hc
      rw [hc]
      rfl
    · rw [codes, codes_escape, List.mem_singleton] at hc
      rw [hc]
      rfl

/-! ## What a clause leaves -/

/-- The visible characters but those that some pieces name. -/
def visibleBut (pieces : List Text) : List Int :=
  visible.filter fun code => ∀ piece ∈ pieces, NamesCharacter piece → code ∉ codes piece

theorem anyButCodes_eq_visibleBut (pieces : List Text) :
    anyButCodes (some pieces) = visibleBut pieces := by
  rw [anyButCodes, visibleBut]
  refine List.filter_congr fun code _ => ?_
  have hx : code ∈ pieces.filterMap exclusionCode? ↔
      ∃ piece ∈ pieces, NamesCharacter piece ∧ code ∈ codes piece := by
    simp only [List.mem_filterMap, exclusionCode?_eq_some_iff_mem_codes]
  rw [Bool.eq_iff_iff, Bool.not_eq_true', ← Bool.not_eq_true, List.contains_iff_mem, hx,
    decide_eq_true_eq]
  simp only [not_exists, not_and]

theorem codes_clause (h : ArePieces pieces) {glued : Text} (hg : ' ' ∉ glued)
    (ht : IsTail ' ' t) : codes (clause glued pieces t) = visibleBut pieces := by
  rw [codes, codes_of_isClause (h.isClause hg ht), ← cuts_iff.1 h.cuts, anyButCodes_eq_visibleBut]

theorem visibleBut_congr
    (h : ∀ piece, NamesCharacter piece → (piece ∈ pieces ↔ piece ∈ others)) :
    visibleBut pieces = visibleBut others := by
  refine List.filter_congr fun code _ => ?_
  rw [decide_eq_decide]
  constructor
  · intro hc piece hp hn
    exact hc piece ((h piece hn).2 hp) hn
  · intro hc piece hp hn
    exact hc piece ((h piece hn).1 hp) hn

theorem visibleBut_subset (h : pieces ⊆ others) : visibleBut others ⊆ visibleBut pieces := by
  intro code hc
  obtain ⟨hv, hn⟩ := List.mem_filter.1 hc
  rw [decide_eq_true_eq] at hn
  exact List.mem_filter.2 ⟨hv, decide_eq_true fun piece hp => hn piece (h hp)⟩

/-! ## Every set of characters -/

/-- The piece that stands for a character. -/
def pieceOf (c : Char) : Text := if c = '|' then ['\\', 'v', 'l', 'n'] else [c]

/-- The clause for all visible characters but some. -/
def excluding (excluded : Text) : Text := clause [] (excluded.map pieceOf) []

/-- A visible character, which the space is not. -/
def IsVisible (c : Char) : Prop := 33 ≤ c.toNat ∧ c.toNat ≤ 126

variable {excluded : Text}

theorem namesCharacter_pieceOf (c : Char) : NamesCharacter (pieceOf c) := by
  unfold pieceOf
  split
  · exact namesCharacter_escape ..
  · exact namesCharacter_singleton c

theorem codes_pieceOf (c : Char) : codes (pieceOf c) = [(c.toNat : Int)] := by
  unfold pieceOf codes
  split
  · rename_i h
    rw [h, codes_escape]
    rfl
  · exact codes_singleton c

theorem IsVisible.not_isBlank {c : Char} (h : IsVisible c) : isBlank c = false := by
  obtain ⟨h1, h2⟩ := h
  have hlow : c.toNat < 128 := by omega
  have h3 : ¬ c.toNat = 32 := by omega
  have h4 : ¬ c.toNat ≤ 13 := by omega
  have h5 : ¬ c.toNat ≤ 31 := by omega
  simp [isBlank, hlow, h3, h4, h5]

theorem isWord_of_all {w : Text} (hne : w ≠ []) (h : w.all (!isBlank ·) = true) : IsWord w :=
  ⟨hne, fun c hc => by simpa using List.all_eq_true.1 h c hc⟩

theorem isWord_pieceOf {c : Char} (h : IsVisible c) : IsWord (pieceOf c) := by
  unfold pieceOf
  split
  · exact isWord_of_all (by simp) (by decide)
  · exact ⟨by simp, fun d hd => by rw [List.mem_singleton.1 hd]; exact h.not_isBlank⟩

theorem arePieces_map_pieceOf (hne : excluded ≠ []) (h : ∀ c ∈ excluded, IsVisible c) :
    ArePieces (excluded.map pieceOf) where
  ne_nil := by simpa using hne
  space_notMem piece hp hs := by
    obtain ⟨c, hc, rfl⟩ := List.mem_map.1 hp
    exact absurd isBlank_space (by simp [(isWord_pieceOf (h c hc)).2 ' ' hs])
  bar_notMem piece hp hb := by
    obtain ⟨c, -, rfl⟩ := List.mem_map.1 hp
    unfold pieceOf at hb
    split at hb
    · exact absurd hb (by decide)
    · exact absurd (List.mem_singleton.1 hb).symm ‹_›

theorem isWord_join {ws : List Text} (hne : ws ≠ []) (h : ∀ w ∈ ws, IsWord w) :
    IsWord (join ['|'] ws) := by
  constructor
  · cases ws with
    | nil => exact absurd rfl hne
    | cons w ws =>
      obtain ⟨t, -, ht⟩ := isTail_join '|' ws
      rw [ht]
      exact fun he => (h w (List.mem_cons_self ..)).1 (List.append_eq_nil_iff.1 he).1
  · intro c hc
    rcases mem_join hc with hc | ⟨w, hw, hc⟩
    · rw [List.mem_singleton.1 hc]
      decide
    · exact (h w hw).2 c hc

/-- The clause is three words, so that collapsing leaves it as it is. -/
theorem collapse_excluding (hne : excluded ≠ []) (h : ∀ c ∈ excluded, IsVisible c) :
    collapse (excluding excluded) = excluding excluded := by
  have hlist : IsWord (join ['|'] (excluded.map pieceOf)) := by
    refine isWord_join (by simpa using hne) fun w hw => ?_
    obtain ⟨c, hc, rfl⟩ := List.mem_map.1 hw
    exact isWord_pieceOf (h c hc)
  have hwords : excluding excluded =
      join [' '] [anyWord, butWord, join ['|'] (excluded.map pieceOf)] := by
    simp [excluding, clause, join]
  rw [collapse_eq_self_iff, hwords]
  refine isCollapsed_join fun w hw => ?_
  simp only [List.mem_cons, List.not_mem_nil, or_false] at hw
  rcases hw with rfl | rfl | rfl
  · exact isWord_of_all (by decide) (by decide)
  · exact isWord_of_all (by decide) (by decide)
  · exact hlist

theorem visibleBut_map_pieceOf (excluded : Text) :
    visibleBut (excluded.map pieceOf) =
      visible.filter fun code => code ∉ excluded.map fun c => (c.toNat : Int) := by
  refine List.filter_congr fun code _ => ?_
  rw [decide_eq_decide]
  rw [List.forall_mem_map]
  simp only [namesCharacter_pieceOf, codes_pieceOf, List.mem_singleton, true_implies,
    List.mem_map, not_exists, not_and]
  exact forall₂_congr fun _ _ => not_congr eq_comm

/-! ## The complement -/

/-- An `any but` clause stands for the visible characters but those of its literals and escapes. So
only the set of these counts, and more of them leave less. Any characters can be left out by a
clause that goes through a document unchanged. -/
theorem codes_clause_complement :
    (∀ pieces t, ArePieces pieces → IsTail ' ' t →
      codes (clause [] pieces t) =
        visible.filter fun code => ∀ piece ∈ pieces, NamesCharacter piece → code ∉ codes piece) ∧
    (∀ pieces others t u, ArePieces pieces → ArePieces others → IsTail ' ' t → IsTail ' ' u →
      (∀ piece, NamesCharacter piece → (piece ∈ pieces ↔ piece ∈ others)) →
      codes (clause [] pieces t) = codes (clause [] others u)) ∧
    (∀ pieces others t u, ArePieces pieces → ArePieces others → IsTail ' ' t → IsTail ' ' u →
      pieces ⊆ others → codes (clause [] others u) ⊆ codes (clause [] pieces t)) ∧
    (∀ excluded : Text, excluded ≠ [] → (∀ c ∈ excluded, IsVisible c) →
      collapse (excluding excluded) = excluding excluded ∧
        codes (excluding excluded) =
          visible.filter fun code => code ∉ excluded.map fun c => (c.toNat : Int)) := by
  have hnil : ' ' ∉ ([] : Text) := List.not_mem_nil
  refine ⟨?_, ?_, ?_, ?_⟩
  · intro pieces t hp ht
    exact codes_clause hp hnil ht
  · intro pieces others t u hp ho ht hu h
    rw [codes_clause hp hnil ht, codes_clause ho hnil hu]
    exact visibleBut_congr h
  · intro pieces others t u hp ho ht hu h
    rw [codes_clause hp hnil ht, codes_clause ho hnil hu]
    exact visibleBut_subset h
  · intro excluded hne h
    refine ⟨collapse_excluding hne h, ?_⟩
    rw [excluding, codes_clause (arePieces_map_pieceOf hne h) hnil (.inl rfl),
      visibleBut_map_pieceOf]

/-- An empty piece and one of two letters take nothing away. -/
theorem codes_clause_complement_bar :
    let pieces : List Text := [['a'], [], ['x', 'y'], ['\\', 'v', 'l', 'n']]
    ArePieces pieces ∧
      codes (clause [] pieces [' ', 'z']) = visible.filter fun code => code ≠ 97 ∧ code ≠ 124 := by
  intro pieces
  have hp : ArePieces pieces := ⟨by decide, by decide, by decide⟩
  refine ⟨hp, ?_⟩
  rw [codes_clause_complement.1 pieces [' ', 'z'] hp (.inr ⟨['z'], rfl⟩)]
  decide

end Label
end DfaTable
