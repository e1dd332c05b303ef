import DfaTable.Markup.Reader
import DfaTable.Proofs.Markup.Passage
import DfaTable.Proofs.Markup.Shortening

/-!
# DfaTable.Proofs.Markup.Steps

What all steps have in common, wherever in a document reading stands.

* `step_behind`: what has happened before has no part in a step.
* `step_suffix`: an end of the input is left, and a shorter one if nothing is waited for.
* `isPlaced_step`: a subset is gone to only where one begins.
-/

namespace DfaTable
namespace Markup

open Text

namespace Progress

/-! ## The past -/

/-- The same progress with more that has happened before. -/
def behind (p : Progress) (past : List Event) : Progress := { p with events := p.events ++ past }

/-- What a step comes to, with more that has happened before. -/
def allBehind (past : List Event) (r : Option (Progress × Input)) : Option (Progress × Input) :=
  r.map fun s => (s.1.behind past, s.2)

section Past

variable (p : Progress) (past : List Event) (isLast : Bool) (t : Input)

@[simp] theorem part_behind : (p.behind past).part = p.part := rfl

@[simp] theorem isAlone_behind : (p.behind past).isAlone = p.isAlone := rfl

@[simp] theorem rules_behind : (p.behind past).rules = p.rules := rfl

@[simp] theorem stack_behind : (p.behind past).stack = p.stack := rfl

@[simp] theorem isLax_behind : (p.behind past).isLax = p.isLax := rfl

theorem scan_behind {α : Type} (s : Scan α) :
    (p.behind past).scan s t = ((p.scan s t).1, (p.scan s t).2.1.behind past, (p.scan s t).2.2) :=
  rfl

theorem note_behind (isSound : Bool) (events : List Event) :
    (p.behind past).note isSound events = (p.note isSound events).behind past := by
  simp [note, behind]

theorem enter_behind (tag : StartTag) (isSound : Bool) :
    (p.behind past).enter tag isSound = (p.enter tag isSound).behind past := by
  unfold enter
  rw [stack_behind, show (p.behind past).bindingsFor tag = p.bindingsFor tag from rfl]
  cases tag.ending
  · simp only [note_behind]
    rfl
  · simp only [note_behind]
  · simp only [note_behind]

theorem resume_behind : (p.behind past).resume t = allBehind past (p.resume t) := by
  unfold resume
  rw [stack_behind]
  split <;> rfl

theorem tagStep_behind :
    (p.behind past).tagStep isLast t = allBehind past (p.tagStep isLast t) := by
  unfold tagStep
  split
  · rfl
  · split
    · split
      · rfl
      · rw [isLax_behind, rules_behind]
        split
        · rfl
        · rw [enter_behind, resume_behind]
    · rfl

theorem instructionStep_behind :
    (p.behind past).instructionStep isLast t = allBehind past (p.instructionStep isLast t) := by
  unfold instructionStep
  split
  · rfl
  · simp only [note_behind]
    rfl

theorem commentStep_behind :
    (p.behind past).commentStep isLast t = allBehind past (p.commentStep isLast t) := by
  unfold commentStep
  split
  · rfl
  · simp only [note_behind]
    rfl

theorem beginningStep_behind :
    (p.behind past).beginningStep isLast t = allBehind past (p.beginningStep isLast t) := by
  unfold beginningStep
  dsimp only
  split
  · rfl
  split
  · rfl
  split
  · rfl
  split
  · rfl
  split
  · rfl
  split <;> rfl

theorem doctypeStep_behind :
    (p.behind past).doctypeStep isLast t = allBehind past (p.doctypeStep isLast t) := by
  unfold doctypeStep
  rw [rules_behind, scan_behind]
  split <;> rfl

theorem subsetStep_behind :
    (p.behind past).subsetStep isLast t = allBehind past (p.subsetStep isLast t) := by
  unfold subsetStep
  rw [rules_behind, isAlone_behind, scan_behind]
  split
  · rfl
  · generalize p.scan (Doctype.subset p.isAlone p.rules) t = found
    obtain ⟨rules, q, rest⟩ := found
    dsimp only
    split <;> rfl

theorem prologStep_behind (mayHaveType : Bool) :
    (p.behind past).prologStep isLast mayHaveType t =
      allBehind past (p.prologStep isLast mayHaveType t) := by
  unfold prologStep
  simp only [instructionStep_behind, commentStep_behind, tagStep_behind, doctypeStep_behind]
  split
  · rfl
  · rfl
  · rfl
  · split
    · split
      · rfl
      · split
        · split <;> rfl
        · rfl
    · rfl

theorem endStep_behind :
    (p.behind past).endStep isLast t = allBehind past (p.endStep isLast t) := by
  unfold endStep
  rw [stack_behind]
  split
  · rfl
  · split
    · rfl
    · rename_i o stack _
      simp only [note_behind]
      exact resume_behind { p.note _ [.closing o.name] with stack } past _

theorem referenceStep_behind :
    (p.behind past).referenceStep isLast t = allBehind past (p.referenceStep isLast t) := by
  unfold referenceStep
  split
  · rfl
  · simp only [note_behind]
    rfl

theorem dataStep_behind :
    (p.behind past).dataStep isLast t = allBehind past (p.dataStep isLast t) := by
  unfold dataStep
  split
  · rfl
  · simp only [note_behind]
    rfl

theorem sectionStep_behind :
    (p.behind past).sectionStep isLast t = allBehind past (p.sectionStep isLast t) := by
  unfold sectionStep
  split
  · rfl
  · simp only [note_behind]
    rfl

theorem contentStep_behind :
    (p.behind past).contentStep isLast t = allBehind past (p.contentStep isLast t) := by
  unfold contentStep
  simp only [instructionStep_behind, commentStep_behind, tagStep_behind, endStep_behind,
    referenceStep_behind, dataStep_behind, sectionStep_behind]
  split
  · rfl
  · rfl
  · rfl
  · rfl
  · split
    · rfl
    · split <;> rfl
  · rfl
  · rfl
  · rfl

/-- What has happened before has no part in a step. -/
theorem step_behind : (p.behind past).step isLast t = allBehind past (p.step isLast t) := by
  unfold step
  rw [part_behind]
  split
  · exact beginningStep_behind ..
  · exact prologStep_behind ..
  · exact subsetStep_behind ..
  · exact contentStep_behind ..
  · rfl

end Past

/-! ## What is left -/

section Left

variable {p q : Progress} {isLast : Bool} {t rest : Input}

theorem stop_eq_some (h : p.stop = some (q, rest)) : q.part = .ended ∧ rest = [] := by
  cases h
  exact ⟨rfl, rfl⟩

theorem resume_eq_some (h : p.resume t = some (q, rest)) :
    (q.part = .ended ∧ rest = []) ∨ (q.part = .content ∧ rest = t) := by
  unfold resume at h
  split at h
  · exact .inl (stop_eq_some h)
  · cases h
    exact .inr ⟨rfl, rfl⟩

theorem resume_suffix (h : p.resume t = some (q, rest)) : rest <:+ t := by
  rcases resume_eq_some h with ⟨-, rfl⟩ | ⟨-, rfl⟩
  · exact List.nil_suffix
  · exact List.suffix_rfl

theorem tagStep_suffix (h : p.tagStep isLast t = some (q, rest)) :
    rest = [] ∨ ∃ u, t = .char '<' :: u ∧ rest <:+ u := by
  unfold tagStep at h
  split at h
  · cases h
  split at h
  · split at h
    · cases h
    split at h
    · exact .inl (stop_eq_some h).2
    · rename_i u _ _ _ r hr
      refine .inr ⟨u, rfl, (resume_suffix h).trans ?_⟩
      exact startTag?_suffix hr
  · exact .inl (stop_eq_some h).2

theorem instructionStep_suffix (h : p.instructionStep isLast t = some (q, rest)) :
    rest <:+ t := by
  unfold instructionStep at h
  split at h
  · cases h
  · cases h
    exact instruction_suffix t

theorem commentStep_suffix (h : p.commentStep isLast t = some (q, rest)) : rest <:+ t := by
  unfold commentStep at h
  split at h
  · cases h
  · cases h
    exact (isLocal_comment true).suffix t

theorem doctypeStep_suffix (h : p.doctypeStep isLast t = some (q, rest)) : rest <:+ t := by
  unfold doctypeStep at h
  split at h
  · cases h
  · cases h
    exact Doctype.shortens_opening p.rules ⟨t, p.isSound⟩

theorem endStep_suffix (h : p.endStep isLast t = some (q, rest)) : rest <:+ t := by
  unfold endStep at h
  split at h
  · cases h
  split at h
  · rw [(stop_eq_some h).2]
    exact List.nil_suffix
  · refine (resume_suffix h).trans ?_
    have hs : skipSpaces (takeName t).2 <:+ t :=
      (List.dropWhile_suffix _).trans (takes_takeName.suffix t)
    show (after? ['>'] (skipSpaces (takeName t).2)).getD (skipSpaces (takeName t).2) <:+ t
    cases ha : after? ['>'] (skipSpaces (takeName t).2) with
    | none => exact hs
    | some r =>
      have hr : r <:+ skipSpaces (takeName t).2 := ⟨_, (after?_eq_some_iff.1 ha).symm⟩
      exact hr.trans hs

theorem referenceStep_suffix (h : p.referenceStep isLast t = some (q, rest)) : rest <:+ t := by
  unfold referenceStep at h
  split at h
  · cases h
  · cases h
    exact (isLocal_reference p.isLax).suffix t

theorem sectionStep_suffix (h : p.sectionStep isLast t = some (q, rest)) : rest <:+ t := by
  unfold sectionStep at h
  split at h
  · cases h
  · cases h
    exact isLocal_sectionData.suffix t

theorem dataStep_suffix (h : p.dataStep isLast t = some (q, rest)) : rest <:+ t := by
  unfold dataStep at h
  split at h
  · cases h
  · cases h
    exact plainData_suffix ..

theorem beginningStep_suffix (h : p.beginningStep isLast t = some (q, rest)) : rest <:+ t := by
  have hmark : (after? ['\uFEFF'] t).getD t <:+ t := by
    cases ha : after? ['\uFEFF'] t with
    | none => exact List.suffix_rfl
    | some r => exact ⟨_, (after?_eq_some_iff.1 ha).symm⟩
  unfold beginningStep at h
  split at h
  · cases h
  refine List.IsSuffix.trans ?_ hmark
  generalize (after? ['\uFEFF'] t).getD t = t at h
  dsimp only at h
  split at h
  · cases h
  split at h
  · cases h
    exact List.suffix_rfl
  rename_i inside hi
  split at h
  · cases h
  split at h
  · cases h
    exact List.suffix_rfl
  rename_i body hb
  split at h
  · cases h
    have h₁ : inside <:+ t := ⟨_, (after?_eq_some_iff.1 hi).symm⟩
    have h₂ : body <:+ inside := ⟨_, (after?_eq_some_iff.1 hb).symm⟩
    exact (Declaration.shortens_read ⟨body, p.isSound⟩).trans (h₂.trans h₁)
  · cases h
    exact List.suffix_rfl

/-- What is left behind some symbols at the beginning. -/
theorem shorter_of_suffix {s : Symbol} {u : Input} (h : rest <:+ u) (ht : s :: u <:+ t) :
    rest <:+ t ∧ rest.length < t.length := by
  refine ⟨h.trans ((List.suffix_cons s u).trans ht), ?_⟩
  exact Nat.lt_of_le_of_lt h.length_le (Nat.lt_of_lt_of_le (Nat.lt_succ_self _) ht.length_le)

theorem tagStep_shorter {u : Input} (hu : u ≠ []) (ht : u <:+ t)
    (h : p.tagStep isLast u = some (q, rest)) : rest <:+ t ∧ rest.length < t.length := by
  rcases tagStep_suffix h with rfl | ⟨v, rfl, hv⟩
  · exact ⟨List.nil_suffix, Nat.lt_of_lt_of_le (List.length_pos_iff.2 hu) ht.length_le⟩
  · exact shorter_of_suffix hv ht

theorem subsetStep_shorter (hb : startsWith "[" t = true)
    (h : p.subsetStep isLast t = some (q, rest)) : rest <:+ t ∧ rest.length < t.length := by
  obtain ⟨u, hu⟩ := Option.isSome_iff_exists.1 hb
  obtain rfl : t = .char '[' :: u := after?_eq_some_iff.1 hu
  have hs := Doctype.subset_suffix p.isAlone p.rules u p.isSound
  unfold subsetStep at h
  split at h
  · cases h
  · generalize hf : p.scan (Doctype.subset p.isAlone p.rules) (.char '[' :: u) = found at h
    obtain ⟨rules, p', r⟩ := found
    have hr : r <:+ u := by
      cases hf
      exact hs
    dsimp only at h
    split at h
    · rw [(stop_eq_some h).2]
      exact ⟨List.nil_suffix, Nat.succ_pos _⟩
    · cases h
      exact shorter_of_suffix hr List.suffix_rfl

theorem prologStep_shorter {mayHaveType : Bool}
    (h : p.prologStep isLast mayHaveType t = some (q, rest)) :
    rest <:+ t ∧ rest.length < t.length := by
  have hs : skipSpaces t <:+ t := List.dropWhile_suffix _
  unfold prologStep at h
  generalize skipSpaces t = u at h hs
  split at h
  · cases h
  · exact shorter_of_suffix ((instructionStep_suffix h).trans (List.suffix_cons ..)) hs
  · exact shorter_of_suffix ((commentStep_suffix h).trans ⟨[_, _, _], rfl⟩) hs
  · rename_i hn _ _
    split at h
    · split at h
      · cases h
      · split at h
        · rename_i r hr
          split at h
          · obtain rfl : u = .char '<' :: (inputOf "!DOCTYPE".toList ++ r) :=
              after?_eq_some_iff.1 hr
            exact shorter_of_suffix ((doctypeStep_suffix h).trans (List.suffix_append ..)) hs
          · exact tagStep_shorter hn hs h
        · exact tagStep_shorter hn hs h
    · exact tagStep_shorter hn hs h

theorem contentStep_suffix (h : p.contentStep isLast t = some (q, rest)) :
    rest <:+ t ∧ (isLast = true → rest.length < t.length) := by
  have both : rest <:+ t ∧ rest.length < t.length →
      rest <:+ t ∧ (isLast = true → rest.length < t.length) := fun hs => ⟨hs.1, fun _ => hs.2⟩
  unfold contentStep at h
  split at h
  · cases h
  · exact both (shorter_of_suffix ((endStep_suffix h).trans (List.suffix_cons ..)) List.suffix_rfl)
  · exact both (shorter_of_suffix ((instructionStep_suffix h).trans (List.suffix_cons ..))
      List.suffix_rfl)
  · exact both (shorter_of_suffix ((commentStep_suffix h).trans ⟨[_, _, _], rfl⟩) List.suffix_rfl)
  · rename_i u _
    split at h
    · rename_i inside hi
      have hu : inside <:+ u := ⟨_, (after?_eq_some_iff.1 hi).symm⟩
      exact both (shorter_of_suffix ((sectionStep_suffix h).trans (hu.trans (List.suffix_cons ..)))
        List.suffix_rfl)
    · split at h
      · cases h
      · refine both ?_
        rw [(stop_eq_some h).2]
        exact ⟨List.nil_suffix, Nat.succ_pos _⟩
  · exact both (tagStep_shorter (List.cons_ne_nil _ _) List.suffix_rfl h)
  · exact both (shorter_of_suffix (referenceStep_suffix h) List.suffix_rfl)
  · rename_i hnil _ _ _ _ hlt hand
    refine ⟨dataStep_suffix h, fun hl => ?_⟩
    subst hl
    cases h
    obtain ⟨s, u, rfl⟩ := List.exists_cons_of_ne_nil hnil
    refine length_characterData_lt fun hs => ?_
    cases s with
    | stray => cases hs
    | char c =>
      rcases (endsText_char c).1 hs with rfl | rfl
      · exact hlt u rfl
      · exact hand u rfl

theorem step_suffix (hb : p.part = .subset → startsWith "[" t = true)
    (h : p.step isLast t = some (q, rest)) :
    rest <:+ t ∧ (isLast = true → p.part ≠ .beginning → rest.length < t.length) := by
  unfold step at h
  split at h
  · rename_i hp
    exact ⟨beginningStep_suffix h, fun _ hn => absurd hp hn⟩
  · have hs := prologStep_shorter h
    exact ⟨hs.1, fun _ _ => hs.2⟩
  · rename_i hp
    have hs := subsetStep_shorter (hb hp) h
    exact ⟨hs.1, fun _ _ => hs.2⟩
  · have hs := contentStep_suffix h
    exact ⟨hs.1, fun hl _ => hs.2 hl⟩
  · cases h

end Left

/-! ## Where reading goes -/

section Place

variable {p q : Progress} {isLast : Bool} {t rest : Input}

/-- A subset is read only where one begins. -/
def IsPlaced (p : Progress) (t : Input) : Prop := p.part = .subset → startsWith "[" t = true

theorem part_tagStep (h : p.tagStep isLast t = some (q, rest)) :
    q.part = .ended ∨ q.part = .content := by
  unfold tagStep at h
  split at h
  · cases h
  split at h
  · split at h
    · cases h
    split at h
    · exact .inl (stop_eq_some h).1
    · exact (resume_eq_some h).imp And.left And.left
  · exact .inl (stop_eq_some h).1

theorem part_instructionStep (h : p.instructionStep isLast t = some (q, rest)) :
    q.part = p.part := by
  unfold instructionStep at h
  split at h <;> cases h
  rfl

theorem part_commentStep (h : p.commentStep isLast t = some (q, rest)) : q.part = p.part := by
  unfold commentStep at h
  split at h <;> cases h
  rfl

theorem part_beginningStep (h : p.beginningStep isLast t = some (q, rest)) :
    q.part = .prolog true := by
  unfold beginningStep at h
  dsimp only at h
  split at h
  · cases h
  split at h
  · cases h
  split at h
  · cases h
    rfl
  split at h
  · cases h
  split at h
  · cases h
    rfl
  split at h <;> (cases h; rfl)

theorem part_doctypeStep (h : p.doctypeStep isLast t = some (q, rest)) :
    q.part = .prolog false ∨ (q.part = .subset ∧ startsWith "[" rest = true) := by
  have hs := Doctype.startsWith_of_opening p.rules (p := ⟨t, p.isSound⟩)
  unfold doctypeStep at h
  split at h
  · cases h
  · generalize hf : p.scan (Doctype.opening p.rules) t = found at h
    obtain ⟨⟨rules, hasSubset⟩, p', r⟩ := found
    have h₁ : ((Doctype.opening p.rules).run ⟨t, p.isSound⟩).1.2 = hasSubset :=
      congrArg (fun found => found.1.2) hf
    have h₂ : ((Doctype.opening p.rules).run ⟨t, p.isSound⟩).2.rest = r :=
      congrArg (fun found => found.2.2) hf
    rw [h₁, h₂] at hs
    cases h
    cases hasSubset with
    | true => exact .inr ⟨rfl, hs rfl⟩
    | false => exact .inl rfl

theorem part_subsetStep (h : p.subsetStep isLast t = some (q, rest)) :
    q.part = .ended ∨ q.part = .prolog false := by
  unfold subsetStep at h
  split at h
  · cases h
  · generalize p.scan (Doctype.subset p.isAlone p.rules) t = found at h
    obtain ⟨rules, p', r⟩ := found
    dsimp only at h
    split at h
    · exact .inl (stop_eq_some h).1
    · cases h
      exact .inr rfl

theorem part_prologStep {mayHaveType : Bool} (hp : p.part = .prolog mayHaveType)
    (h : p.prologStep isLast mayHaveType t = some (q, rest)) :
    q.part = .ended ∨ q.part = .content ∨ (∃ mayHaveType, q.part = .prolog mayHaveType) ∨
      (q.part = .subset ∧ startsWith "[" rest = true ∧
        startsWith "<!DOCTYPE" (skipSpaces t) = true) := by
  have tag : ∀ {u}, p.tagStep isLast u = some (q, rest) → _ := fun h =>
    (part_tagStep h).imp id (Or.inl (b := (∃ mayHaveType, q.part = .prolog mayHaveType) ∨
      (q.part = .subset ∧ startsWith "[" rest = true ∧
        startsWith "<!DOCTYPE" (skipSpaces t) = true)))
  unfold prologStep at h
  split at h
  · cases h
  · exact .inr (.inr (.inl ⟨_, (part_instructionStep h).trans hp⟩))
  · exact .inr (.inr (.inl ⟨_, (part_commentStep h).trans hp⟩))
  · split at h
    · split at h
      · cases h
      · split at h
        · rename_i hd
          split at h
          · exact .inr (.inr ((part_doctypeStep h).imp (fun hq => ⟨_, hq⟩)
              fun hq => ⟨hq.1, hq.2, Option.isSome_iff_exists.2 ⟨_, hd⟩⟩))
          · exact tag h
        · exact tag h
    · exact tag h

theorem part_endStep (h : p.endStep isLast t = some (q, rest)) :
    q.part = .ended ∨ q.part = .content := by
  unfold endStep at h
  split at h
  · cases h
  split at h
  · exact .inl (stop_eq_some h).1
  · exact (resume_eq_some h).imp And.left And.left

theorem part_contentStep (hp : p.part = .content)
    (h : p.contentStep isLast t = some (q, rest)) : q.part = .ended ∨ q.part = .content := by
  unfold contentStep at h
  split at h
  · cases h
  · exact part_endStep h
  · exact .inr ((part_instructionStep h).trans hp)
  · exact .inr ((part_commentStep h).trans hp)
  · split at h
    · unfold sectionStep at h
      split at h <;> cases h
      exact .inr hp
    · split at h
      · cases h
      · exact .inl (stop_eq_some h).1
  · exact part_tagStep h
  · unfold referenceStep at h
    split at h <;> cases h
    exact .inr hp
  · unfold dataStep at h
    split at h <;> cases h
    exact .inr hp

theorem isPlaced_step (h : p.step isLast t = some (q, rest)) :
    q.part ≠ .beginning ∧ q.IsPlaced rest := by
  have placed : q.part ≠ .beginning → q.part ≠ .subset →
      q.part ≠ .beginning ∧ q.IsPlaced rest := fun h₁ h₂ => ⟨h₁, fun hs => absurd hs h₂⟩
  unfold step at h
  split at h
  · have hq := part_beginningStep h
    exact placed (by rw [hq]; nofun) (by rw [hq]; nofun)
  · rename_i mayHaveType hp
    rcases part_prologStep hp h with hq | hq | ⟨_, hq⟩ | ⟨hq, hs, -⟩
    · exact placed (by rw [hq]; nofun) (by rw [hq]; nofun)
    · exact placed (by rw [hq]; nofun) (by rw [hq]; nofun)
    · exact placed (by rw [hq]; nofun) (by rw [hq]; nofun)
    · exact ⟨by rw [hq]; nofun, fun _ => hs⟩
  · rcases part_subsetStep h with hq | hq
    · exact placed (by rw [hq]; nofun) (by rw [hq]; nofun)
    · exact placed (by rw [hq]; nofun) (by rw [hq]; nofun)
  · rename_i hp
    rcases part_contentStep hp h with hq | hq
    · exact placed (by rw [hq]; nofun) (by rw [hq]; nofun)
    · exact placed (by rw [hq]; nofun) (by rw [hq]; nofun)
  · cases h

end Place

end Progress
end Markup
end DfaTable
