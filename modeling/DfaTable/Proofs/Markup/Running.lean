import DfaTable.Proofs.Markup.Scanning

/-!
# DfaTable.Proofs.Markup.Running

Reading as a whole, from what a single step does. What is said of a progress is said of it together
with all that it has still to read, the part that has not come in yet included.

* `run_kept`: what every step keeps, a run keeps.
* `run_ends`: a run whose steps all go on ends where no step is left.
* `exists_last_run`: a document is read in a run over what is left of it when its end comes.
* `root?_ofFeed_of_notMem`: no element starts in a text without `<`.
* `root?_ofSource_of_isBlank`: nor in a document of blanks, be it given as text or as bytes.
-/

namespace DfaTable
namespace Markup

open Text

namespace Progress

/-- Every step keeps a relation between a progress and what is still to be read; `more` has not come
in yet, and does not exist once the end has come. -/
def IsKept (J : Progress → Input → Prop) : Prop :=
  ∀ ⦃isLast : Bool⦄ ⦃p q : Progress⦄ ⦃t rest more : Input⦄, (isLast = true → more = []) →
    J p (t ++ more) → p.step isLast t = some (q, rest) → J q (rest ++ more)

/-- Every step under a relation makes the work less. -/
def GoesOn (J : Progress → Input → Prop) : Prop :=
  ∀ ⦃p q : Progress⦄ ⦃t rest : Input⦄, J p t → p.step true t = some (q, rest) →
    q.work rest < p.work t

theorem run_kept {J : Progress → Input → Prop} (hk : IsKept J) {isLast : Bool} {p : Progress}
    {t more : Input} (hm : isLast = true → more = []) (h : J p (t ++ more)) :
    J (p.run isLast t).1 ((p.run isLast t).2 ++ more) := by
  fun_induction run isLast p t with
  | case1 p t _ => exact h
  | case2 p t q rest hs _ ih => exact ih (hk hm h hs)
  | case3 p t q rest hs _ => exact hk hm h hs

theorem run_ends {J : Progress → Input → Prop} (hk : IsKept J) (hg : GoesOn J) {p : Progress}
    {t : Input} (h : J p t) :
    J (p.run true t).1 (p.run true t).2 ∧ (p.run true t).1.step true (p.run true t).2 = none := by
  have kept : ∀ {p q : Progress} {t rest : Input}, J p t → p.step true t = some (q, rest) →
      J q rest := by
    intro p q t rest h hs
    have := hk (fun _ => rfl) ((List.append_nil t).symm ▸ h) hs
    rwa [List.append_nil] at this
  -- The last case is that of a step that makes the work no less.
  fun_induction run true p t with
  | case1 p t hs => exact ⟨h, hs⟩
  | case2 p t q rest hs _ ih => exact ih (kept h hs)
  | case3 p t q rest hs hw => exact absurd (hg h hs) hw

/-! ## The step over content -/

section

variable {isLast : Bool} {p : Progress} {s : Symbol}

theorem contentStep_tag (h : s ≠ .char '/' ∧ s ≠ .char '?' ∧ s ≠ .char '!') (t : Input) :
    p.contentStep isLast (.char '<' :: s :: t) = p.tagStep isLast (.char '<' :: s :: t) :=
  contentStep.eq_6 _ _ _ (fun _ hu => h.1 (List.cons.inj hu).1)
    (fun _ hu => h.2.1 (List.cons.inj hu).1) (fun _ hu => h.2.2 (List.cons.inj hu).1)
    fun _ hu => h.2.2 (List.cons.inj hu).1

theorem contentStep_data (h : s ≠ .char '<' ∧ s ≠ .char '&') (t : Input) :
    p.contentStep isLast (s :: t) = p.dataStep isLast (s :: t) :=
  contentStep.eq_8 _ _ _ nofun (fun _ hu => h.1 (List.cons.inj hu).1)
    (fun _ hu => h.1 (List.cons.inj hu).1) (fun _ hu => h.1 (List.cons.inj hu).1)
    (fun _ hu => h.1 (List.cons.inj hu).1) (fun _ hu => h.1 (List.cons.inj hu).1)
    fun _ hu => h.2 (List.cons.inj hu).1

end

end Progress

namespace Feed

open Progress

theorem foldl_takePiece_kept {J : Progress → Input → Prop} (hk : IsKept J) {pieces : List Input}
    {p : Progress} {waiting last : Input} (h : J p (waiting ++ (pieces.flatten ++ last))) :
    J (pieces.foldl takePiece (p, waiting)).1
      ((pieces.foldl takePiece (p, waiting)).2 ++ last) := by
  induction pieces generalizing p waiting with
  | nil => exact h
  | cons piece pieces ih =>
    rw [List.flatten_cons, List.append_assoc, ← List.append_assoc] at h
    have hr : J (p.run false (waiting ++ piece)).1
        ((p.run false (waiting ++ piece)).2 ++ (pieces.flatten ++ last)) :=
      run_kept hk (fun hf => by cases hf) h
    exact ih hr

theorem exists_last_run {J : Progress → Input → Prop} (hk : IsKept J) {f : Feed} {t : Text}
    (hs : f.Spells t) (h : J {} (inputOf t)) :
    ∃ p left, J p left ∧ f.progress = (p.run true left).1 := by
  obtain ⟨last, hl, ht⟩ := hs
  have h0 : J {} ([] ++ (f.pieces.flatten ++ last)) := ht ▸ h
  refine ⟨_, _, foldl_takePiece_kept hk h0, ?_⟩
  simp only [progress, hl]

end Feed

/-! ## No element without a tag -/

/-- Before the first tag, or behind the end; nothing has happened. -/
def Progress.IsIdle (p : Progress) : Prop :=
  p.events = [] ∧ (p.part = .beginning ∨ (∃ mayHaveType, p.part = .prolog mayHaveType) ∨
    p.part = .ended)

namespace Progress

theorem IsIdle.stop {p q : Progress} {t rest : Input} (h : p.IsIdle)
    (hs : p.stop = some (q, rest)) : q.IsIdle ∧ rest ⊆ t := by
  cases hs
  exact ⟨⟨h.1, .inr (.inr rfl)⟩, List.nil_subset _⟩

theorem IsIdle.tagStep {isLast : Bool} {p q : Progress} {t rest : Input} (h : p.IsIdle)
    (ht : .char '<' ∉ t) (hs : p.tagStep isLast t = some (q, rest)) :
    q.IsIdle ∧ rest ⊆ t := by
  unfold Progress.tagStep at hs
  split at hs
  · cases hs
  · split at hs
    · exact absurd (List.mem_cons_self ..) ht
    · exact h.stop hs

theorem IsIdle.beginningStep {isLast : Bool} {p q : Progress} {t rest : Input} (h : p.IsIdle)
    (ht : .char '<' ∉ t) (hs : p.beginningStep isLast t = some (q, rest)) :
    q.IsIdle ∧ rest ⊆ t := by
  have hsub : (after? ['\uFEFF'] t).getD t ⊆ t := by
    cases ha : after? ['\uFEFF'] t with
    | none => exact fun _ hx => hx
    | some u => exact after?_subset ha
  have hlt : after? "<?".toList ((after? ['\uFEFF'] t).getD t) = none :=
    after?_eq_none_of_notMem (m := '<') (by decide) fun hm => ht (hsub hm)
  unfold Progress.beginningStep at hs
  split at hs
  · cases hs
  · simp only [hlt] at hs
    split at hs
    · cases hs
    · cases hs
      exact ⟨⟨h.1, .inr (.inl ⟨true, rfl⟩)⟩, hsub⟩

theorem IsIdle.prologStep {isLast mayHaveType : Bool} {p q : Progress} {t rest : Input}
    (h : p.IsIdle) (ht : .char '<' ∉ t)
    (hs : p.prologStep isLast mayHaveType t = some (q, rest)) : q.IsIdle ∧ rest ⊆ t := by
  have hsub : skipSpaces t ⊆ t := (List.dropWhile_sublist _).subset
  have hn : .char '<' ∉ skipSpaces t := fun hm => ht (hsub hm)
  have hlt : startsWith "<!" (skipSpaces t) = false := by
    rw [startsWith, show after? "<!".toList (skipSpaces t) = none from
      after?_eq_none_of_notMem (by decide) hn]
    rfl
  unfold Progress.prologStep at hs
  split at hs
  · cases hs
  · rename_i hc
    exact absurd (hc ▸ List.mem_cons_self ..) hn
  · rename_i hc
    exact absurd (hc ▸ List.mem_cons_self ..) hn
  · rw [hlt] at hs
    obtain ⟨hq, hr⟩ := h.tagStep hn hs
    exact ⟨hq, List.Subset.trans hr hsub⟩

theorem IsIdle.step {isLast : Bool} {p q : Progress} {t rest : Input} (h : p.IsIdle)
    (ht : .char '<' ∉ t) (hs : p.step isLast t = some (q, rest)) : q.IsIdle ∧ rest ⊆ t := by
  rcases h.2 with hp | ⟨mayHaveType, hp⟩ | hp
  · simp only [Progress.step, hp] at hs
    exact h.beginningStep ht hs
  · simp only [Progress.step, hp] at hs
    exact h.prologStep ht hs
  · simp only [Progress.step, hp] at hs
    cases hs

theorem isKept_isIdle : IsKept fun p t => p.IsIdle ∧ .char '<' ∉ t := by
  rintro isLast p q t rest more - ⟨hp, ht⟩ hs
  rw [List.mem_append, not_or] at ht
  obtain ⟨hq, hr⟩ := hp.step ht.1 hs
  refine ⟨hq, ?_⟩
  rw [List.mem_append, not_or]
  exact ⟨fun hm => ht.1 (hr hm), ht.2⟩

end Progress

theorem root?_ofFeed_of_notMem {f : Feed} {t : Text} (hs : f.Spells t) (ht : '<' ∉ t) :
    (Forest.ofFeed f).root? = none := by
  have hi : .char '<' ∉ inputOf t := mt char_mem_inputOf.1 ht
  obtain ⟨p, left, hp, hf⟩ := Feed.exists_last_run Progress.isKept_isIdle hs
    ⟨⟨rfl, .inl rfl⟩, hi⟩
  have hr : (p.run true left).1.IsIdle ∧ .char '<' ∉ (p.run true left).2 ++ [] :=
    Progress.run_kept Progress.isKept_isIdle (fun _ => rfl) ((List.append_nil left).symm ▸ hp)
  have he : f.events = [] := by rw [Feed.events, hf, hr.1.1]; rfl
  rw [Forest.ofFeed, he]
  rfl

/-! ## Blank documents -/

namespace Source

/-- A document of blanks only; for bytes these are the six blanks of ASCII. -/
def IsBlank : Source → Prop
  | .text t => ∀ c ∈ t, Text.isBlank c = true
  | .bytes b => ∀ x ∈ b, isBlankByte (Char.ofNat x.toNat) = true

/-- The characters of blank bytes. -/
def textOf (b : List UInt8) : Text := b.map fun x => Char.ofNat x.toNat

theorem toNat_of_isBlankByte {c : Char} (h : isBlankByte c = true) :
    c.toNat = 32 ∨ (9 ≤ c.toNat ∧ c.toNat ≤ 13) := by
  simp only [isBlankByte, isSpace, Bool.or_eq_true, beq_iff_eq] at h
  rcases h with ((((rfl | rfl) | rfl) | rfl) | rfl) | rfl <;> decide

theorem toNat_of_isBlank_byte {x : UInt8} (h : isBlankByte (Char.ofNat x.toNat) = true) :
    x.toNat < 0x80 ∧ (Char.ofNat x.toNat).toNat = x.toNat ∧
      (x.toNat = 32 ∨ (9 ≤ x.toNat ∧ x.toNat ≤ 13)) := by
  have hx := x.toNat_lt
  have he : (Char.ofNat x.toNat).toNat = x.toNat := by
    rw [Char.ofNat, dif_pos (.inl (by omega))]
    rfl
  have hr := toNat_of_isBlankByte h
  rw [he] at hr
  exact ⟨by omega, he, hr⟩

theorem encode_textOf {b : List UInt8}
    (h : ∀ x ∈ b, isBlankByte (Char.ofNat x.toNat) = true) :
    Encoding.Utf8.encode (textOf b) = b := by
  induction b with
  | nil => rfl
  | cons x b ih =>
    obtain ⟨hx, he, -⟩ := toNat_of_isBlank_byte (h x (List.mem_cons_self ..))
    have hc : Encoding.Utf8.encodeChar (Char.ofNat x.toNat) = [x] := by
      simp only [Encoding.Utf8.encodeChar, he, if_pos hx]
      rw [UInt8.ofNat_toNat]
    have hb := ih fun y hy => h y (List.mem_cons_of_mem _ hy)
    show Encoding.Utf8.encodeChar (Char.ofNat x.toNat) ++ Encoding.Utf8.encode (textOf b) = x :: b
    rw [hc, hb]
    rfl

/-- Blank bytes have no mark and no declaration. -/
theorem codingOf_of_isBlank {b : List UInt8}
    (h : ∀ x ∈ b, isBlankByte (Char.ofNat x.toNat) = true) : codingOf b = (.utf8, b) := by
  have hm : marked? b = none := by
    cases b with
    | nil => rfl
    | cons x b =>
      obtain ⟨-, -, hx⟩ := toNat_of_isBlank_byte (h x (List.mem_cons_self ..))
      unfold marked?
      split
      all_goals first | rfl | (rename_i he; cases he; simp at hx)
  have hd : declaredName? b = none := by
    have hw : ((b.take nameLimit).map fun x => Char.ofNat x.toNat).dropWhile isBlankByte = [] := by
      rw [List.dropWhile_eq_nil_iff]
      intro c hc
      obtain ⟨x, hx, rfl⟩ := List.mem_map.1 hc
      exact h x (List.mem_of_mem_take hx)
    simp only [declaredName?, hw]
    rfl
  simp only [codingOf, hm, hd]
  rfl

theorem spells_of_isBlank {s : Source} (h : s.IsBlank) :
    ∃ t, s.feed.Spells t ∧ '<' ∉ t := by
  cases s with
  | text t =>
    refine ⟨t, spells_text fun hf => ?_, fun hm => absurd (h _ hm) (by decide)⟩
    exact absurd (h _ (List.mem_of_mem_head? hf)) (by decide)
  | bytes b =>
    refine ⟨textOf b, spells_utf8 (codingOf_of_isBlank h) (encode_textOf h).symm, fun hm => ?_⟩
    obtain ⟨x, hx, he⟩ := List.mem_map.1 hm
    have hb := h x hx
    rw [he] at hb
    exact absurd hb (by decide)

end Source

theorem root?_ofSource_of_isBlank {s : Source} (h : s.IsBlank) :
    (Forest.ofSource s).root? = none := by
  obtain ⟨t, hs, ht⟩ := Source.spells_of_isBlank h
  exact root?_ofFeed_of_notMem hs ht

end Markup
end DfaTable
