import DfaTable.Proofs.Text.Pieces

/-!
# DfaTable.Proofs.Text.Collapsed

The collapsed form of a text, said by where its blanks are and not by its words.

* `isCollapsed_collapse`: collapsing gives a text of that form.
* `collapse_eq_self_iff`: the texts of that form are the ones that collapsing leaves alone.
* `eq_space_or_mem_of_mem_collapse`: collapsing adds no character but spaces.
-/

namespace DfaTable
namespace Text

/-- Every blank is a space, with a character on either side that is none. -/
def IsCollapsed (t : Text) : Prop :=
  ∀ before c after, t = before ++ c :: after → isBlank c = true →
    c = ' ' ∧ (∃ b, before.getLast? = some b ∧ isBlank b = false) ∧
      ∃ d, after.head? = some d ∧ isBlank d = false

/-- A text that is not empty and holds no blank. -/
def IsWord (w : Text) : Prop := w ≠ [] ∧ ∀ c ∈ w, isBlank c = false

section
variable {t w : Text}

theorem IsWord.head? (h : IsWord w) : ∃ d, w.head? = some d ∧ isBlank d = false := by
  obtain ⟨hne, hb⟩ := h
  exact ⟨_, List.head?_eq_some_head hne, hb _ (List.head_mem hne)⟩

theorem IsWord.getLast? (h : IsWord w) : ∃ b, w.getLast? = some b ∧ isBlank b = false := by
  obtain ⟨hne, hb⟩ := h
  exact ⟨_, List.getLast?_eq_some_getLast hne, hb _ (List.getLast_mem hne)⟩

theorem isCollapsed_nil : IsCollapsed [] := by
  intro before c after h
  simp at h

theorem IsWord.isCollapsed (h : IsWord w) : IsCollapsed w := by
  rintro before c after rfl hc
  have hm : c ∈ before ++ c :: after := by simp
  rw [h.2 c hm] at hc
  cases hc

/-- A word goes before a collapsed text, with a space between them. -/
theorem IsWord.isCollapsed_append (hw : IsWord w) (ht : IsCollapsed t)
    (hd : ∃ d, t.head? = some d ∧ isBlank d = false) : IsCollapsed (w ++ ' ' :: t) := by
  intro before c after h hc
  rcases List.append_eq_append_iff.1 h with ⟨more, rfl, hm⟩ | ⟨more, rfl, hm⟩
  · cases more with
    | nil =>
      obtain ⟨rfl, rfl⟩ := List.cons.inj hm
      exact ⟨rfl, by simpa using hw.getLast?, hd⟩
    | cons s more =>
      -- The blank stands in the collapsed text, and has the same neighbours there.
      obtain ⟨rfl, rfl⟩ := List.cons.inj hm
      obtain ⟨rfl, ⟨b, hb, hnb⟩, hafter⟩ := ht more c after rfl hc
      refine ⟨rfl, ⟨b, ?_, hnb⟩, hafter⟩
      rw [List.getLast?_append, List.getLast?_cons, hb]
      rfl
  · cases more with
    | nil =>
      obtain ⟨rfl, rfl⟩ := List.cons.inj hm
      exact ⟨rfl, by simpa using hw.getLast?, hd⟩
    | cons s more =>
      obtain ⟨rfl, -⟩ := List.cons.inj hm
      rw [hw.2 c (by simp)] at hc
      cases hc

theorem head?_join {ws : List Text} (hw : IsWord w) :
    ∃ d, (join [' '] (w :: ws)).head? = some d ∧ isBlank d = false := by
  obtain ⟨d, hd, hb⟩ := hw.head?
  refine ⟨d, ?_, hb⟩
  cases ws with
  | nil => exact hd
  | cons v ws => rw [join_cons_cons, List.append_assoc, List.head?_append, hd]; rfl

theorem isCollapsed_join {ws : List Text} (h : ∀ w ∈ ws, IsWord w) :
    IsCollapsed (join [' '] ws) := by
  induction ws with
  | nil => exact isCollapsed_nil
  | cons w ws ih =>
    have hw : IsWord w := h w (List.mem_cons_self ..)
    have hws : ∀ v ∈ ws, IsWord v := fun v hv => h v (List.mem_cons_of_mem _ hv)
    cases ws with
    | nil => exact hw.isCollapsed
    | cons v ws =>
      rw [join_cons_cons, List.append_assoc, List.singleton_append]
      exact hw.isCollapsed_append (ih hws) (head?_join (hws v (List.mem_cons_self ..)))

theorem isCollapsed_collapse (t : Text) : IsCollapsed (collapse t) :=
  isCollapsed_join fun _ h => of_mem_words h

/-! ## What collapsing leaves alone -/

/-- In a collapsed text the spaces stand where the blanks do. -/
theorem IsCollapsed.isBlank_eq (h : IsCollapsed t) {c : Char} (hc : c ∈ t) :
    isBlank c = (c == ' ') := by
  rw [Bool.eq_iff_iff, beq_iff_eq]
  constructor
  · intro hb
    obtain ⟨before, after, he⟩ := List.append_of_mem hc
    exact (h before c after he hb).1
  · rintro rfl
    exact isBlank_space

theorem splitP_congr {p q : Char → Bool} (h : ∀ c ∈ t, p c = q c) : splitP p t = splitP q t := by
  induction t with
  | nil => rfl
  | cons c t ih =>
    rw [splitP, splitP, h c (List.mem_cons_self ..), ih fun d hd => h d (List.mem_cons_of_mem _ hd)]

/-- Between the spaces of a collapsed text no piece is empty, unless the text is. -/
theorem IsCollapsed.nil_notMem_split (h : IsCollapsed t) (hne : t ≠ []) : [] ∉ split ' ' t := by
  rw [mem_split_iff]
  rintro ⟨-, before, after, hb, ha, rfl⟩
  rw [List.append_nil] at h hne
  rcases hb with rfl | ⟨front, rfl⟩
  · rcases ha with rfl | ⟨back, rfl⟩
    · exact hne rfl
    · obtain ⟨-, ⟨b, hb, -⟩, -⟩ := h [] ' ' back rfl isBlank_space
      cases hb
  · -- What follows the space is the end of the text, or one more space.
    obtain ⟨-, -, d, hd, hnb⟩ := h front ' ' after (by simp) isBlank_space
    rcases ha with rfl | ⟨back, rfl⟩
    · cases hd
    · cases hd
      cases isBlank_space.symm.trans hnb

theorem IsCollapsed.collapse_eq (h : IsCollapsed t) : collapse t = t := by
  by_cases hne : t = []
  · rw [hne]
    rfl
  have hs : splitP isBlank t = split ' ' t := splitP_congr fun c hc => h.isBlank_eq hc
  have hf : (split ' ' t).filter (!·.isEmpty) = split ' ' t := by
    refine List.filter_eq_self.2 fun piece hp => ?_
    have hpne : piece ≠ [] := fun he => h.nil_notMem_split hne (he ▸ hp)
    simpa using hpne
  rw [collapse, words, hs, hf, join_split]

theorem collapse_eq_self_iff : collapse t = t ↔ IsCollapsed t := by
  constructor
  · intro h
    rw [← h]
    exact isCollapsed_collapse t
  · exact IsCollapsed.collapse_eq

/-! ## The characters of a collapsed text -/

theorem mem_of_mem_splitP {p : Char → Bool} {piece : Text} (h : piece ∈ splitP p t) {c : Char}
    (hc : c ∈ piece) : c ∈ t := by
  induction t generalizing piece with
  | nil =>
    rw [List.mem_singleton.1 h] at hc
    exact hc
  | cons d t ih =>
    cases hp : p d with
    | true =>
      rw [splitP_cons_pos hp] at h
      rcases List.mem_cons.1 h with rfl | h
      · cases hc
      · exact List.mem_cons_of_mem _ (ih h hc)
    | false =>
      cases hs : splitP p t with
      | nil => exact absurd hs (splitP_ne_nil p t)
      | cons first more =>
        rw [splitP_cons_neg hp hs] at h
        rw [hs] at ih
        rcases List.mem_cons.1 h with rfl | h
        · rcases List.mem_cons.1 hc with rfl | hc
          · exact List.mem_cons_self ..
          · exact List.mem_cons_of_mem _ (ih (List.mem_cons_self ..) hc)
        · exact List.mem_cons_of_mem _ (ih (List.mem_cons_of_mem _ h) hc)

theorem mem_join {sep : Text} {ws : List Text} {c : Char} (h : c ∈ join sep ws) :
    c ∈ sep ∨ ∃ w ∈ ws, c ∈ w := by
  induction ws with
  | nil => cases h
  | cons w ws ih =>
    cases ws with
    | nil => exact .inr ⟨w, List.mem_cons_self .., h⟩
    | cons v ws =>
      rw [join_cons_cons, List.mem_append, List.mem_append] at h
      rcases h with (h | h) | h
      · exact .inr ⟨w, List.mem_cons_self .., h⟩
      · exact .inl h
      · rcases ih h with h | ⟨u, hu, h⟩
        · exact .inl h
        · exact .inr ⟨u, List.mem_cons_of_mem _ hu, h⟩

theorem eq_space_or_mem_of_mem_collapse {c : Char} (h : c ∈ collapse t) : c = ' ' ∨ c ∈ t := by
  rcases mem_join h with h | ⟨w, hw, h⟩
  · exact .inl (List.mem_singleton.1 h)
  · exact .inr (mem_of_mem_splitP (List.mem_filter.1 hw).1 h)

end

end Text
end DfaTable
