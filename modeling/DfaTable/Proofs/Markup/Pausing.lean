import DfaTable.Proofs.Files.Reading
import DfaTable.Proofs.Markup.Spread
import DfaTable.Proofs.Markup.Steady

/-!
# DfaTable.Proofs.Markup.Pausing

A document from which reading stops in time everywhere says the same in whatever pieces it comes in.

* `Holds`: the invariant of reading while a document comes in.
* `holds_step`, `holds_run`: steps and runs that wait keep it.
* `Feed.spread_events_of_isSteady`: what happens while a document is read in pieces.
-/

namespace DfaTable
namespace Markup

open Text

/-- All characters are there, and markup may hold them. -/
def IsWhole (t : Input) : Prop := ∀ s ∈ t, ∃ c, s = .char c ∧ isChar c = true

theorem IsWhole.of_suffix {t u : Input} (h : IsWhole u) (hs : t <:+ u) : IsWhole t :=
  fun s hm => h s (hs.subset hm)

theorem IsWhole.exists_text {t : Input} (h : IsWhole t) :
    ∃ u, t = inputOf u ∧ ∀ c ∈ u, isChar c = true := by
  induction t with
  | nil => exact ⟨[], rfl, nofun⟩
  | cons s t ih =>
    obtain ⟨c, rfl, hc⟩ := h s (List.mem_cons_self ..)
    obtain ⟨u, rfl, hu⟩ := ih fun s hs => h s (List.mem_cons_of_mem _ hs)
    exact ⟨c :: u, rfl, List.forall_mem_cons.2 ⟨hc, hu⟩⟩

theorem isWhole_inputOf {u : Text} (h : ∀ c ∈ u, isChar c = true) : IsWhole (inputOf u) := by
  intro s hs
  obtain ⟨c, hc, rfl⟩ := List.mem_map.1 hs
  exact ⟨c, rfl, h c hc⟩

namespace Progress

/-! ## What happens from a place on -/

/-- What has happened when all is read, every text cut into its characters. -/
def outcome (p : Progress) (t : Input) : List Event :=
  (p.run true t).1.events.reverse.flatMap Event.spread

/-- The same progress without what has happened. -/
def bare (p : Progress) : Progress := { p with events := [] }

theorem bare_behind (p : Progress) : p.bare.behind p.events = p := rfl

theorem run_behind (p : Progress) (past : List Event) (isLast : Bool) (t : Input) :
    (p.behind past).run isLast t = ((p.run isLast t).1.behind past, (p.run isLast t).2) := by
  fun_induction run isLast p t with
  | case1 p t hs =>
    rw [run, step_behind, hs]
    rfl
  | case2 p t q rest hs hw ih =>
    rw [run, step_behind, hs]
    show (if q.work rest < p.work t then (q.behind past).run isLast rest else _) = _
    rw [if_pos hw, ih]
  | case3 p t q rest hs hw =>
    rw [run, step_behind, hs]
    show (if q.work rest < p.work t then (q.behind past).run isLast rest else _) = _
    rw [if_neg hw]

theorem outcome_behind (p : Progress) (past : List Event) (t : Input) :
    (p.behind past).outcome t = past.reverse.flatMap Event.spread ++ p.outcome t := by
  unfold outcome
  rw [run_behind]
  simp [behind]

section

variable {p q : Progress} {t rest : Input}

theorem outcome_of_part_eq_ended (h : p.part = .ended) (t : Input) :
    p.outcome t = p.events.reverse.flatMap Event.spread := by
  have hs : p.step true t = none := by rw [step, h]
  unfold outcome
  rw [run, hs]

theorem outcome_step (hp : p.IsPlaced t) (h : p.step true t = some (q, rest)) :
    p.outcome t = q.outcome rest := by
  have hw : q.work rest < p.work t := by
    obtain ⟨hs, hlt⟩ := step_suffix hp h
    have hle := hs.length_le
    unfold work
    rw [if_neg (isPlaced_step h).1]
    by_cases hb : p.part = .beginning
    · rw [if_pos hb]
      omega
    · have := hlt rfl hb
      omega
  unfold outcome
  rw [run, h]
  dsimp only
  rw [if_pos hw]

/-! ## Steadiness and the past -/

theorem isSettled_behind {past : List Event} : (p.behind past).IsSettled t ↔ p.IsSettled t :=
  ⟨fun h => ⟨h.comment, h.tag, h.doctype, h.subset, h.text⟩,
    fun h => ⟨h.comment, h.tag, h.doctype, h.subset, h.text⟩⟩

theorem leads_behind {past : List Event} {b : Progress × Input}
    (h : Leads (p.behind past, t) b) :
    ∃ q rest, b = (q.behind past, rest) ∧ Leads (p, t) (q, rest) := by
  have hs : allBehind past (p.step true t) = some b := (step_behind p past true t).symm.trans h
  obtain ⟨r, hr, rfl⟩ := Option.map_eq_some_iff.1 hs
  exact ⟨r.1, r.2, rfl, hr⟩

theorem comes_behind {past : List Event} {b : Progress × Input}
    (h : Relation.ReflTransGen Leads (p.behind past, t) b) :
    ∃ q rest, b = (q.behind past, rest) ∧ Relation.ReflTransGen Leads (p, t) (q, rest) := by
  induction h with
  | refl => exact ⟨p, t, rfl, .refl⟩
  | tail _ hl ih =>
    obtain ⟨q, rest, rfl, hc⟩ := ih
    obtain ⟨q', rest', rfl, hl'⟩ := leads_behind hl
    exact ⟨q', rest', rfl, hc.tail hl'⟩

theorem isSteady_behind {past : List Event} : (p.behind past).IsSteady t ↔ p.IsSteady t := by
  constructor
  · intro h q rest hc
    have hb : Relation.ReflTransGen Leads (p.behind past, t) (q.behind past, rest) :=
      hc.lift (fun a => (a.1.behind past, a.2)) fun a b hl => by
        show (a.1.behind past).step true a.2 = _
        rw [step_behind, show a.1.step true a.2 = some b from hl]
        rfl
    exact isSettled_behind.1 (h _ _ hb)
  · intro h q rest hc
    obtain ⟨q, rest, he, hc⟩ := comes_behind hc
    cases he
    exact isSettled_behind.2 (h q rest hc)

theorem isSteady_congr (h : p.bare = q.bare) : p.IsSteady t ↔ q.IsSteady t := by
  rw [← bare_behind p, ← bare_behind q, isSteady_behind, isSteady_behind, h]

/-! ## Text -/

theorem bare_note (p : Progress) (events : List Event) : (p.note true events).bare = p.bare := by
  simp [note, bare]

theorem events_note (p : Progress) (isSound : Bool) (events : List Event) :
    (p.note isSound events).events = events.reverse ++ p.events := rfl

/-- From a place on happens what has happened, and then what is still to come. -/
theorem outcome_eq (p : Progress) (t : Input) :
    p.outcome t = p.events.reverse.flatMap Event.spread ++ p.bare.outcome t :=
  outcome_behind p.bare p.events t

variable {u : Text} {more : Input}

theorem step_passage (hp : p.part = .content) (hu : IsPassage u) (hne : u ≠ [])
    (hm : ∀ s ∈ more.head?, endsText s = true) :
    p.step true (inputOf u ++ more) = some (p.note true [.text u.unifyLineEnds], more) := by
  have hdata := characterData_of_isPassage hu hm
  obtain ⟨c, u, rfl⟩ := List.exists_cons_of_ne_nil hne
  have hc : ¬endsText (.char c) = true := by
    rw [endsText_char]
    rintro (h | h)
    · exact (hu.chars c (List.mem_cons_self ..)).2.1 h
    · exact (hu.chars c (List.mem_cons_self ..)).2.2 h
  rw [inputOf_cons, List.cons_append] at hdata ⊢
  rw [step, hp]
  dsimp only
  rw [contentStep_data (ne_of_not_endsText hc)]
  unfold dataStep
  rw [ite_last]
  rw [Bool.not_true, hdata]

theorem IsPlaced.of_content (hp : p.part = .content) (t : Input) : p.IsPlaced t := fun hs => by
  rw [hp] at hs
  cases hs

/-- From text on its characters happen, and then what follows it. -/
theorem outcome_passage (hp : p.part = .content) (hu : IsPassage u)
    (hm : ∀ s ∈ more.head?, endsText s = true) :
    p.outcome (inputOf u ++ more) = p.events.reverse.flatMap Event.spread ++
      (u.unifyLineEnds.map (fun c => .text [c]) ++ p.bare.outcome more) := by
  by_cases hne : u = []
  · subst hne
    exact outcome_eq p more
  · rw [outcome_step (.of_content hp _) (step_passage hp hu hne hm), outcome_eq, bare_note,
      events_note]
    simp [Event.spread]

theorem isSteady_of_passage (hp : p.part = .content) (hu : IsPassage u)
    (hm : ∀ s ∈ more.head?, endsText s = true) (h : p.IsSteady (inputOf u ++ more)) :
    p.IsSteady more := by
  by_cases hne : u = []
  · subst hne
    exact h
  · exact (isSteady_congr (bare_note p _)).1 (h.step (step_passage hp hu hne hm))

theorem isSteady_passage (hp : p.part = .content) (hu : IsPassage u)
    (hm : ∀ s ∈ more.head?, endsText s = true) (h : p.IsSteady more) :
    p.IsSteady (inputOf u ++ more) := by
  by_cases hne : u = []
  · subst hne
    exact h
  · refine isSteady_of_step ?_ (step_passage hp hu hne hm)
      ((isSteady_congr (bare_note p _)).2 h)
    obtain ⟨c, u, rfl⟩ := List.exists_cons_of_ne_nil hne
    have hahead : p.ahead (inputOf (c :: u) ++ more) = .char c :: (inputOf u ++ more) := by
      rw [ahead, hp]
      rfl
    have hc : Symbol.char c ≠ .char '<' := fun hc =>
      (hu.chars c (List.mem_cons_self ..)).2.1 (Symbol.char.inj hc)
    refine ⟨fun v hv => ?_, fun v r hv => ?_, fun v hs => ?_, fun v w hs => ?_, fun _ _ => ?_⟩
    · rw [hahead] at hv
      exact absurd (List.cons.inj (after?_eq_some_iff.1 hv)).1 hc
    · rw [hahead] at hv
      exact absurd (List.cons.inj hv).1 hc
    · rw [hp] at hs
      cases hs
    · rw [hp] at hs
      cases hs
    · rw [takeWhile_text hu.not_endsText hm]
      exact hu.hasMark_eq_false

end

/-! ## Reading with pauses -/

/-- What holds while a document comes in of which `more` is not there yet. -/
structure Holds (happens : List Event) (p : Progress) (t more : Input) : Prop where
  isSteady : p.IsSteady (t ++ more)
  isPlaced : p.IsPlaced (t ++ more)
  isWhole : IsWhole (t ++ more)
  cutsNoLineEnd : t.getLast? = some (.char '\r') → more.head? ≠ some (.char '\n')
  outcome_eq : p.outcome (t ++ more) = happens

section

variable {happens : List Event} {p q : Progress} {t rest more : Input}

theorem Holds.of_step (h : Holds happens p t more)
    (hs : p.step true (t ++ more) = some (q, rest ++ more)) : Holds happens q rest more := by
  have hsuf := (step_suffix h.isPlaced hs).1
  refine ⟨h.isSteady.step hs, (isPlaced_step hs).2, h.isWhole.of_suffix hsuf, fun hr => ?_, ?_⟩
  · obtain ⟨v, hv⟩ := hsuf
    rw [← List.append_assoc] at hv
    obtain ⟨w, rfl⟩ := List.getLast?_eq_some_iff.1 hr
    refine h.cutsNoLineEnd ?_
    rw [← List.append_cancel_right hv, ← List.append_assoc, List.getLast?_concat]
  · rw [← outcome_step h.isPlaced hs, h.outcome_eq]

theorem isSteady_of_part_eq_ended (hp : p.part = .ended) (t : Input) : p.IsSteady t := by
  intro q rest hc
  rcases hc.cases_head with he | ⟨b, hb, -⟩
  · cases he
    have ha : p.ahead t = [] := by rw [ahead, hp]
    refine ⟨fun u hu => ?_, fun u r hu => ?_, fun u hs => ?_, fun u w hs => ?_, fun hs => ?_⟩
    · rw [ha] at hu
      cases hu
    · rw [ha] at hu
      cases hu
    all_goals
      rw [hp] at hs
      cases hs
  · have hs : p.step true t = none := by rw [step, hp]
    rw [Leads, hs] at hb
    cases hb

theorem Holds.of_ended (h : Holds happens p t more) (hq : q.part = .ended) {r : Input}
    (hs : p.step true (t ++ more) = some (q, r)) : Holds happens q [] more where
  isSteady := isSteady_of_part_eq_ended hq _
  isPlaced hp := by
    rw [hq] at hp
    cases hp
  isWhole := h.isWhole.of_suffix (List.suffix_append t more)
  cutsNoLineEnd := nofun
  outcome_eq := by
    rw [outcome_of_part_eq_ended hq, ← outcome_of_part_eq_ended hq r,
      ← outcome_step h.isPlaced hs, h.outcome_eq]

theorem Holds.of_agrees (h : Holds happens p t more)
    (ha : Agrees (p.step true (t ++ more)) q rest more) : Holds happens q rest more := by
  rcases ha with hs | ⟨hq, rfl, r, hs⟩
  · exact h.of_step hs
  · exact h.of_ended hq hs

/-- Text of which some has come in, with what follows it. -/
theorem exists_text (h : IsWhole (t ++ more)) (ht : ∀ s ∈ t, ¬endsText s = true) :
    ∃ u w after, t = inputOf u ∧ more = inputOf w ++ after ∧ (∀ c ∈ u ++ w, isChar c = true) ∧
      (∀ s ∈ inputOf (u ++ w), ¬endsText s = true) ∧ ∀ s ∈ after.head?, endsText s = true := by
  obtain ⟨u, rfl, hu⟩ : ∃ u, t = inputOf u ∧ ∀ c ∈ u, isChar c = true :=
    IsWhole.exists_text fun s hs => h s (List.mem_append_left _ hs)
  obtain ⟨w, hw, hwc⟩ : ∃ w, more.takeWhile (!endsText ·) = inputOf w ∧
      ∀ c ∈ w, isChar c = true :=
    IsWhole.exists_text fun s hs => h s (List.mem_append_right _
      ((List.takeWhile_sublist _).subset hs))
  refine ⟨u, w, more.dropWhile (!endsText ·), rfl, ?_, ?_, fun s hs => ?_, fun s hs => ?_⟩
  · rw [← hw, List.takeWhile_append_dropWhile]
  · intro c hc
    exact (List.mem_append.1 hc).elim (hu c) (hwc c)
  · rw [inputOf_append] at hs
    rcases List.mem_append.1 hs with hs | hs
    · exact ht s hs
    · have := List.mem_takeWhile_imp (hw ▸ hs)
      simpa using this
  · have := List.head?_dropWhile_not (!endsText ·) more
    rw [show _ = some s from hs] at this
    simpa using this

/-- Text is read without its end if it is long enough. -/
theorem dataLimit_le_of_dataStep (ht : ∀ s ∈ t, ¬endsText s = true)
    (h : p.dataStep false t = some (q, rest)) : dataLimit ≤ byteCount t := by
  have hany : t.any endsText = false := by
    rw [List.any_eq_false]
    exact fun s hs => ht s hs
  have hend : hasDataEnd t = true := by
    unfold dataStep at h
    split at h
    · cases h
    · rename_i hend
      simpa using hend
  have hor : (decide (dataLimit ≤ byteCount (t.take dataLimit)) || t.any endsText) = true := hend
  rw [hany, Bool.or_false, decide_eq_true_eq] at hor
  have hsum := byteCount_append (t.take dataLimit) (t.drop dataLimit)
  rw [List.take_append_drop] at hsum
  omega

/-- Text whose end has not come in is read in parts. -/
theorem Holds.of_dataStep (h : Holds happens p t more) (hp : p.part = .content)
    (ht : ∀ s ∈ t, ¬endsText s = true) (hs : p.dataStep false t = some (q, rest)) :
    Holds happens q rest more := by
  have hlimit := dataLimit_le_of_dataStep ht hs
  obtain ⟨u, w, after, rfl, rfl, hchar, hends, hafter⟩ := exists_text h.isWhole ht
  have hwhole : inputOf u ++ (inputOf w ++ after) = inputOf (u ++ w) ++ after := by
    rw [inputOf_append, List.append_assoc]
  have hpass : IsPassage (u ++ w) := by
    refine isPassage_of_hasMark hchar hends ?_
    have hset := h.isSteady.isSettled.text hp
    rw [hwhole, takeWhile_text hends hafter] at hset
    refine hset (Nat.le_trans hlimit ?_)
    rw [inputOf_append, byteCount_append]
    exact Nat.le_add_right ..
  obtain ⟨v, x, rfl, hx, hread⟩ := exists_characterData_true
    (hpass.of_isInfix (List.prefix_append u w).isInfix)
  have hrest : IsPassage (x ++ w) := hpass.of_isInfix ⟨v, [], by simp⟩
  obtain ⟨rfl, rfl⟩ : q = p.note true [.text v.unifyLineEnds] ∧ rest = inputOf x := by
    unfold Progress.dataStep at hs
    split at hs
    · cases hs
    · rw [Bool.not_false, hread] at hs
      cases hs
      exact ⟨rfl, rfl⟩
  have hpart : inputOf x ++ (inputOf w ++ after) = inputOf (x ++ w) ++ after := by
    rw [inputOf_append, List.append_assoc]
  have hcut : (v ++ x ++ w).unifyLineEnds = v.unifyLineEnds ++ (x ++ w).unifyLineEnds := by
    rw [List.append_assoc]
    refine Text.unifyLineEnds_append fun hr hn => ?_
    rcases hx with rfl | rfl | rfl
    · obtain ⟨v, rfl⟩ := List.getLast?_eq_some_iff.1 hr
      obtain ⟨w, rfl⟩ := List.head?_eq_some_iff.1 hn
      exact h.cutsNoLineEnd (by simp [inputOf]) rfl
    · cases hn
    · cases hn
  refine ⟨?_, .of_content hp _, ?_, ?_, ?_⟩
  · have hsteady := h.isSteady
    rw [hwhole] at hsteady
    rw [hpart]
    refine isSteady_passage hp hrest hafter ((isSteady_congr (bare_note p _)).2 ?_)
    exact isSteady_of_passage hp hpass hafter hsteady
  · refine h.isWhole.of_suffix ?_
    rw [inputOf_append, List.append_assoc]
    exact List.suffix_append ..
  · intro hr
    rcases hx with rfl | rfl | rfl <;> cases hr
  · rw [← h.outcome_eq, hwhole, hpart, outcome_passage hp hpass hafter,
      outcome_passage (p := p.note true _) hp hrest hafter, hcut, bare_note, events_note]
    simp [Event.spread]

theorem Holds.of_contentStep (h : Holds happens p t more) (hp : p.part = .content)
    (hs : p.contentStep false t = some (q, rest)) : Holds happens q rest more := by
  have agrees : Agrees (p.contentStep true (t ++ more)) q rest more → Holds happens q rest more :=
    fun ha => h.of_agrees (by rw [step, hp]; exact ha)
  obtain ⟨s, u, ht⟩ : ∃ s u, t = s :: u := List.exists_cons_of_ne_nil fun ht => by
    rw [ht] at hs
    cases hs
  by_cases hends : endsText s = true
  · exact agrees (agrees_contentStep hp h.isSteady.isSettled ht hends hs)
  have hdata : p.dataStep false t = some (q, rest) := by
    rw [ht] at hs ⊢
    rwa [contentStep_data (ne_of_not_endsText hends)] at hs
  cases hany : t.any endsText with
  | false =>
    refine h.of_dataStep hp (fun s hs he => ?_) hdata
    rw [List.any_eq_false] at hany
    exact hany s hs he
  | true =>
    refine agrees ?_
    have ha : Agrees (p.dataStep true (t ++ more)) q rest more := agrees_dataStep hany hdata
    rw [ht, List.cons_append] at ha ⊢
    rwa [contentStep_data (ne_of_not_endsText hends)]

theorem holds_step (h : Holds happens p t more) (hs : p.step false t = some (q, rest)) :
    Holds happens q rest more := by
  have hset := h.isSteady.isSettled
  unfold step at hs
  split at hs
  · rename_i hp
    refine h.of_agrees ?_
    rw [step, hp]
    exact agrees_beginningStep hs
  · rename_i hp
    refine h.of_agrees ?_
    rw [step, hp]
    exact agrees_prologStep hp hset hs
  · rename_i hp
    refine h.of_agrees ?_
    rw [step, hp]
    exact agrees_subsetStep (hset.subset t more hp rfl) hs
  · rename_i hp
    exact h.of_contentStep hp hs
  · cases hs

theorem holds_run (h : Holds happens p t more) :
    Holds happens (p.run false t).1 (p.run false t).2 more := by
  generalize hl : false = isLast
  fun_induction run isLast p t with
  | case1 p t _ => exact h
  | case2 p t q rest hs _ ih =>
    subst hl
    exact ih (holds_step h hs)
  | case3 p t q rest hs _ =>
    subst hl
    exact holds_step h hs

end

end Progress

namespace Feed

open Progress

/-- No line end of two characters is cut by the pieces. -/
def CutsNoLineEnd : List Input → Input → Prop
  | [], _ => True
  | piece :: pieces, last =>
    (piece.getLast? = some (.char '\r') → (pieces.flatten ++ last).head? ≠ some (.char '\n')) ∧
      CutsNoLineEnd pieces last

variable {happens : List Event} {p : Progress}

theorem holds_foldl_takePiece {pieces : List Input} {waiting last : Input}
    (hr : CutsNoLineEnd pieces last) (h : Holds happens p waiting (pieces.flatten ++ last)) :
    Holds happens (pieces.foldl takePiece (p, waiting)).1 (pieces.foldl takePiece (p, waiting)).2
      last := by
  induction pieces generalizing p waiting with
  | nil => exact h
  | cons piece pieces ih =>
    have hpiece : Holds happens p (waiting ++ piece) (pieces.flatten ++ last) := by
      have he : waiting ++ ((piece :: pieces).flatten ++ last) =
          waiting ++ piece ++ (pieces.flatten ++ last) := by simp
      refine ⟨he ▸ h.isSteady, he ▸ h.isPlaced, he ▸ h.isWhole, fun hl => ?_, he ▸ h.outcome_eq⟩
      rw [List.getLast?_append] at hl
      cases hp : piece.getLast? with
      | none =>
        obtain rfl : piece = [] := List.getLast?_eq_none_iff.1 hp
        exact h.cutsNoLineEnd hl
      | some s =>
        rw [hp] at hl
        exact hr.1 (hp.trans hl)
    exact ih hr.2 (holds_run hpiece)

/-- A document from which reading stops in time everywhere says what it says as a whole. -/
theorem spread_events_of_isSteady {f : Feed} {t : Text} (hs : f.Spells t)
    (hr : ∀ last, f.last? = some last → CutsNoLineEnd f.pieces last)
    (hc : ∀ c ∈ t, isChar c = true) (h : IsSteady {} (inputOf t)) :
    f.events.flatMap Event.spread = outcome {} (inputOf t) := by
  obtain ⟨last, hl, ht⟩ := hs
  have h0 : Holds (outcome {} (inputOf t)) {} [] (f.pieces.flatten ++ last) := by
    rw [ht]
    exact ⟨h, fun hp => by (cases hp), isWhole_inputOf hc, nofun, rfl⟩
  have hlast := holds_foldl_takePiece (hr last hl) h0
  rw [← hlast.outcome_eq]
  simp only [events, progress, hl]
  rfl

end Feed
end Markup
end DfaTable
