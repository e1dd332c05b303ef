import DfaTable.Proofs.Markup.Running
import DfaTable.Proofs.Markup.Steps
import Mathlib.Logic.Relation

/-!
# DfaTable.Proofs.Markup.Steady

A step that has waited for the end of what it reads does the same as one that has the rest of the
document before it, wherever what it reads stops no later than at that end.

* `Progress.IsSettled`: what stands at a place stops in time.
* `Progress.IsSteady`: so does all that reading comes to from there.
* `Progress.agrees_prologStep`, `Progress.agrees_contentStep`, ...: the steps of each part.
-/

namespace DfaTable
namespace Markup

open Text

/-- What is left of an input is no less than what has not come in, once an end of it has. -/
def EndsBy (hasEnd : Input → Bool) (t rest : Input) : Prop :=
  ∀ seen more, t = seen ++ more → hasEnd seen = true → more.length ≤ rest.length

namespace Progress

/-- The markup or text at a place: before the root blanks are passed over. -/
def ahead (p : Progress) (t : Input) : Input :=
  match p.part with
  | .prolog _ => skipSpaces t
  | .content => t
  | _ => []

/-- What is left behind the opening of a document type, with the bracket that opens its subset. -/
def behindOpening (found : (Rules × Bool) × Place) : Input :=
  if found.1.2 then found.2.rest.tail else found.2.rest

/-- Of what stands at a place no more is read than has come in together with its end. Text of more
than a few characters does not hold the end of a section. -/
structure IsSettled (p : Progress) (t : Input) : Prop where
  comment : ∀ u, after? "<!--".toList (p.ahead t) = some u →
    EndsBy (hasMark "-->") u (comment true u).rest
  tag : ∀ u r, p.ahead t = .char '<' :: u → startTag? p.isLax p.rules.isWords u = some r →
    EndsBy (hasTagEnd none) u r.rest
  doctype : ∀ u, p.part = .prolog true → after? "<!DOCTYPE".toList (p.ahead t) = some u →
    EndsBy (hasTagEnd none) u (behindOpening ((Doctype.opening p.rules).run ⟨u, p.isSound⟩))
  subset : ∀ seen more, p.part = .subset → t = seen ++ more →
    hasSubsetEnd .plain (seen.drop 1) = true →
    (Doctype.subset p.isAlone p.rules).run ⟨seen ++ more, p.isSound⟩ =
      (((Doctype.subset p.isAlone p.rules).run ⟨seen, p.isSound⟩).1,
        ((Doctype.subset p.isAlone p.rules).run ⟨seen, p.isSound⟩).2.extend more)
  text : p.part = .content → dataLimit ≤ byteCount (t.takeWhile (!endsText ·)) →
    hasMark "]]>" (t.takeWhile (!endsText ·)) = false

/-- The place that a step without anything to wait for leads to. -/
def Leads (a b : Progress × Input) : Prop := a.1.step true a.2 = some b

/-- All is settled that reading comes to. -/
def IsSteady (p : Progress) (t : Input) : Prop :=
  ∀ q rest, Relation.ReflTransGen Leads (p, t) (q, rest) → q.IsSettled rest

theorem IsSteady.isSettled {p : Progress} {t : Input} (h : p.IsSteady t) : p.IsSettled t :=
  h p t .refl

theorem IsSteady.step {p q : Progress} {t rest : Input} (h : p.IsSteady t)
    (hs : p.step true t = some (q, rest)) : q.IsSteady rest :=
  fun q' rest' hc => h q' rest' (.head hs hc)

theorem isSteady_of_step {p q : Progress} {t rest : Input} (h : p.IsSettled t)
    (hs : p.step true t = some (q, rest)) (hq : q.IsSteady rest) : p.IsSteady t := by
  intro q' rest' hc
  rcases hc.cases_head with he | ⟨b, hb, hc⟩
  · cases he
    exact h
  · obtain rfl : (q, rest) = b := Option.some.inj (hs.symm.trans hb)
    exact hq q' rest' hc

/-! ## Steps over markup -/

/-- At the end of a document nothing is waited for. -/
theorem ite_last {α : Type} (waits : Bool) (x : Option α) :
    (if (!true && waits) = true then none else x) = x := if_neg Bool.false_ne_true

/-- What a step comes to that has more before it: the same, or also the end of reading. -/
def Agrees (x : Option (Progress × Input)) (q : Progress) (rest more : Input) : Prop :=
  x = some (q, rest ++ more) ∨ (q.part = .ended ∧ rest = [] ∧ ∃ r, x = some (q, r))

section Agrees

variable {p q : Progress} {t rest more : Input}

theorem agrees_stop {p' : Progress} (h : p.stop = some (q, rest)) (he : p'.stop = p.stop) :
    Agrees p'.stop q rest more :=
  .inr ⟨(stop_eq_some h).1, (stop_eq_some h).2, _, he.trans h⟩

theorem agrees_resume (h : p.resume t = some (q, rest)) :
    Agrees (p.resume (t ++ more)) q rest more := by
  unfold resume at h ⊢
  split at h
  · rename_i hs
    rw [if_pos hs]
    exact agrees_stop h rfl
  · rename_i hs
    rw [if_neg hs]
    cases h
    exact .inl rfl

theorem agrees_tagStep (hset : ∀ u r, t ++ more = .char '<' :: u →
      startTag? p.isLax p.rules.isWords u = some r → EndsBy (hasTagEnd none) u r.rest)
    (h : p.tagStep false t = some (q, rest)) : Agrees (p.tagStep true (t ++ more)) q rest more := by
  unfold tagStep at h ⊢
  rw [ite_last]
  split at h
  · cases h
  rename_i hl
  split at h
  · rename_i u
    split at h
    · cases h
    rename_i hend
    have hend : hasTagEnd none u = true := by simpa using hend
    simp only [List.cons_append, ite_last]
    cases hr : startTag? p.isLax p.rules.isWords (u ++ more) with
    | none =>
      rw [startTag?_eq_none_of_append hr] at h
      exact agrees_stop h rfl
    | some r =>
      obtain ⟨r, hu, rfl⟩ := startTag?_append hr (hset _ _ rfl hr u more rfl hend)
      rw [hu] at h
      exact agrees_resume h
  · rename_i hn
    match t, hl, hn with
    | [], hl, _ => exact absurd rfl hl
    | s :: t, _, hn =>
      rw [List.cons_append]
      split
      · rename_i u hu
        cases hu
        exact absurd rfl (hn t)
      · exact agrees_stop h rfl

theorem agrees_instructionStep (h : p.instructionStep false t = some (q, rest)) :
    Agrees (p.instructionStep true (t ++ more)) q rest more := by
  unfold instructionStep at h ⊢
  rw [ite_last]
  split at h
  · cases h
  · rename_i hm
    rw [instruction_of_hasMark (by simpa using hm)]
    cases h
    exact .inl rfl

/-- No comment begins where the next two symbols have come in and none begins. -/
theorem not_comment_append (hl : 2 ≤ t.length) (hc : ¬∃ u, t = .char '-' :: .char '-' :: u) :
    ∀ u, t ++ more ≠ .char '-' :: .char '-' :: u := by
  intro u hu
  have hlen := congrArg List.length hu
  rw [List.length_append, List.length_cons, List.length_cons] at hlen
  obtain ⟨v, hv, -⟩ := append_split [.char '-', .char '-'] hu (by omega)
  exact hc ⟨v, hv⟩

theorem agrees_commentStep
    (hset : EndsBy (hasMark "-->") (t ++ more) (comment true (t ++ more)).rest)
    (h : p.commentStep false t = some (q, rest)) :
    Agrees (p.commentStep true (t ++ more)) q rest more := by
  unfold commentStep at h ⊢
  rw [ite_last]
  split at h
  · cases h
  · rename_i hm
    rw [(isLocal_comment true).append_eq t more (hset t more rfl (by simpa using hm))]
    cases h
    exact .inl rfl

theorem agrees_referenceStep (h : p.referenceStep false t = some (q, rest)) :
    Agrees (p.referenceStep true (t ++ more)) q rest more := by
  unfold referenceStep at h ⊢
  rw [ite_last]
  split at h
  · cases h
  · rename_i hm
    rw [reference_of_hasMark (by simpa using hm)]
    cases h
    exact .inl rfl

theorem agrees_sectionStep (h : p.sectionStep false t = some (q, rest)) :
    Agrees (p.sectionStep true (t ++ more)) q rest more := by
  unfold sectionStep at h ⊢
  rw [ite_last]
  split at h
  · cases h
  · rename_i hm
    rw [sectionData_of_hasMark (by simpa using hm)]
    cases h
    exact .inl rfl

theorem agrees_endStep (h : p.endStep false t = some (q, rest)) :
    Agrees (p.endStep true (t ++ more)) q rest more := by
  unfold endStep at h ⊢
  rw [ite_last]
  split at h
  · cases h
  rename_i hm
  split at h
  · exact agrees_stop h rfl
  · have hm : hasMark ">" t = true := by simpa using hm
    obtain ⟨hn, hm⟩ := takeName_of_hasMark (by rfl) (by decide) hm more
    rw [hn]
    generalize takeName t = found at hm h
    obtain ⟨name, r⟩ := found
    dsimp only at hm h ⊢
    obtain ⟨hk, hm⟩ := skipSpaces_of_hasMark (by rfl) (by decide) hm more
    have ha : after? ['>'] (skipSpaces r ++ more) =
        (after? ['>'] (skipSpaces r)).map (· ++ more) :=
      after?_append_of_length_le (length_le_of_hasMark hm) more
    have hget : ((after? ['>'] (skipSpaces r)).map (· ++ more)).getD (skipSpaces r ++ more) =
        (after? ['>'] (skipSpaces r)).getD (skipSpaces r) ++ more := by
      cases after? ['>'] (skipSpaces r) <;> rfl
    rw [hk, ha, hget, Option.isSome_map]
    exact agrees_resume h

theorem agrees_doctypeStep
    (hset : EndsBy (hasTagEnd none) (t ++ more)
      (behindOpening ((Doctype.opening p.rules).run ⟨t ++ more, p.isSound⟩)))
    (h : p.doctypeStep false t = some (q, rest)) :
    Agrees (p.doctypeStep true (t ++ more)) q rest more := by
  unfold doctypeStep at h ⊢
  rw [ite_last]
  split at h
  · cases h
  rename_i hend
  have hin := hset t more rfl (by simpa using hend)
  have hplaced := Doctype.startsWith_of_opening p.rules (p := ⟨t ++ more, p.isSound⟩)
  have hwhole : (Doctype.opening p.rules).run ⟨t ++ more, p.isSound⟩ = _ :=
    Doctype.opening_append p.rules (p := ⟨t, p.isSound⟩) (b := more) ?_
  · unfold scan at h ⊢
    rw [hwhole]
    generalize (Doctype.opening p.rules).run ⟨t, p.isSound⟩ = found at h ⊢
    cases h
    exact .inl rfl
  · show more.length + (if ((Doctype.opening p.rules).run ⟨t ++ more, p.isSound⟩).1.2 then 1 else 0)
      ≤ ((Doctype.opening p.rules).run ⟨t ++ more, p.isSound⟩).2.rest.length
    generalize (Doctype.opening p.rules).run ⟨t ++ more, p.isSound⟩ = found at hin hplaced ⊢
    unfold behindOpening at hin
    split
    · rename_i hs
      obtain ⟨u, hu⟩ := Option.isSome_iff_exists.1 (hplaced hs)
      rw [if_pos hs, after?_eq_some_iff.1 hu] at hin
      rw [after?_eq_some_iff.1 hu]
      exact Nat.succ_le_succ hin
    · rename_i hs
      rw [if_neg hs] at hin
      exact hin

theorem agrees_subsetStep
    (hset : hasSubsetEnd .plain (t.drop 1) = true →
      (Doctype.subset p.isAlone p.rules).run ⟨t ++ more, p.isSound⟩ =
        (((Doctype.subset p.isAlone p.rules).run ⟨t, p.isSound⟩).1,
          ((Doctype.subset p.isAlone p.rules).run ⟨t, p.isSound⟩).2.extend more))
    (h : p.subsetStep false t = some (q, rest)) :
    Agrees (p.subsetStep true (t ++ more)) q rest more := by
  unfold subsetStep at h ⊢
  rw [ite_last]
  split at h
  · cases h
  rename_i hend
  have he := hset (by simpa using hend)
  unfold scan at h ⊢
  rw [he]
  generalize (Doctype.subset p.isAlone p.rules).run ⟨t, p.isSound⟩ = found at h
  obtain ⟨rules, place⟩ := found
  dsimp only at h ⊢
  split at h
  · rename_i hh
    rw [if_pos hh]
    exact agrees_stop h rfl
  · rename_i hh
    rw [if_neg hh]
    cases h
    exact .inl rfl

theorem agrees_beginningStep (h : p.beginningStep false t = some (q, rest)) :
    Agrees (p.beginningStep true (t ++ more)) q rest more := by
  unfold beginningStep at h ⊢
  rw [ite_last]
  split at h
  · cases h
  rename_i hcount
  have hlen : ['\uFEFF'].length ≤ t.length := by
    cases t with
    | nil => exact absurd rfl hcount
    | cons s t => exact Nat.succ_le_succ (Nat.zero_le _)
  have hmark : (after? ['\uFEFF'] (t ++ more)).getD (t ++ more) =
      (after? ['\uFEFF'] t).getD t ++ more := by
    rw [after?_append_of_length_le hlen]
    cases after? ['\uFEFF'] t <;> rfl
  rw [hmark]
  generalize (after? ['\uFEFF'] t).getD t = t at h
  dsimp only at h ⊢
  rw [ite_last]
  split at h
  · cases h
  rename_i hlen
  have hlen : 2 ≤ t.length := by
    simp at hlen
    omega
  rw [after?_append_of_length_le (show "<?".toList.length ≤ t.length from hlen)]
  cases hi : after? "<?".toList t with
  | none =>
    rw [hi] at h
    cases h
    exact .inl rfl
  | some inside =>
    rw [hi] at h
    dsimp only [Option.map_some] at h ⊢
    rw [ite_last]
    split at h
    · cases h
    rename_i hm
    have hm : hasMark "?>" inside = true := by simpa using hm
    have hn : '?' ∉ "xml".toList := by decide
    obtain ⟨hx, hm⟩ := after?_of_hasMark (by rfl) hn hm more
    rw [hx]
    cases hb : after? "xml".toList inside with
    | none =>
      rw [hb] at h
      cases h
      exact .inl rfl
    | some body =>
      rw [hb] at h
      dsimp only [Option.map_some] at h ⊢
      have hm := hm body hb
      rw [startsWithSpace_of_hasMark (by rfl) hm]
      split at h
      · rename_i hs
        rw [if_pos hs]
        have he := Declaration.isEnded_read ⟨body, p.isSound⟩ more hm
        unfold scan at h ⊢
        rw [show (⟨body ++ more, p.isSound⟩ : Place) = (⟨body, p.isSound⟩ : Place).extend more from
          rfl, he]
        cases h
        exact .inl rfl
      · rename_i hs
        rw [if_neg hs]
        cases h
        exact .inl rfl

end Agrees

/-! ## Steps before the root -/

/-- The step at what stands behind blanks before the root. -/
def prologAt (isLast mayHaveType : Bool) (p : Progress) : Input → Option (Progress × Input)
  | [] => none
  | .char '<' :: .char '?' :: t => p.instructionStep isLast t
  | .char '<' :: .char '!' :: .char '-' :: .char '-' :: t => p.commentStep isLast t
  | t =>
    if startsWith "<!" t then
      if !isLast && (t.length < 4 || (mayHaveType && t.length < 9)) then none
      else
        match after? "<!DOCTYPE".toList t with
        | some rest => if mayHaveType then p.doctypeStep isLast rest else p.tagStep isLast t
        | none => p.tagStep isLast t
    else p.tagStep isLast t

section Prolog

variable {p q : Progress} {isLast mayHaveType : Bool} {t rest more : Input}

theorem prologStep_eq (t : Input) :
    p.prologStep isLast mayHaveType t = p.prologAt isLast mayHaveType (skipSpaces t) := rfl

theorem prologAt_tag {s : Symbol} (h : startsWith "<!" (s :: t) = false)
    (hn : ∀ u, s :: t ≠ .char '<' :: .char '?' :: u) :
    p.prologAt isLast mayHaveType (s :: t) = p.tagStep isLast (s :: t) := by
  rw [prologAt.eq_4 _ _ _ (s :: t) nofun hn, h, if_neg Bool.false_ne_true]
  intro u hu
  rw [hu] at h
  cases h

theorem prologAt_declaration (hn : ∀ u, t ≠ .char '-' :: .char '-' :: u) :
    p.prologAt isLast mayHaveType (.char '<' :: .char '!' :: t) =
      let u := .char '<' :: .char '!' :: t
      if !isLast && (u.length < 4 || (mayHaveType && u.length < 9)) then none
      else
        match after? "<!DOCTYPE".toList u with
        | some rest => if mayHaveType then p.doctypeStep isLast rest else p.tagStep isLast u
        | none => p.tagStep isLast u := by
  rw [prologAt.eq_4 _ _ _ (.char '<' :: .char '!' :: t) nofun nofun]
  · rfl
  · rintro u ⟨⟩
    exact hn _ rfl

theorem agrees_prologAt
    (hcomment : ∀ u, after? "<!--".toList (t ++ more) = some u →
      EndsBy (hasMark "-->") u (comment true u).rest)
    (htag : ∀ u r, t ++ more = .char '<' :: u → startTag? p.isLax p.rules.isWords u = some r →
      EndsBy (hasTagEnd none) u r.rest)
    (hdoctype : ∀ u, mayHaveType = true → after? "<!DOCTYPE".toList (t ++ more) = some u →
      EndsBy (hasTagEnd none) u (behindOpening ((Doctype.opening p.rules).run ⟨u, p.isSound⟩)))
    (h : p.prologAt false mayHaveType t = some (q, rest)) :
    Agrees (p.prologAt true mayHaveType (t ++ more)) q rest more := by
  have tagged : p.tagStep false t = some (q, rest) →
      Agrees (p.tagStep true (t ++ more)) q rest more := agrees_tagStep htag
  by_cases hi : ∃ u, t = .char '<' :: .char '?' :: u
  · obtain ⟨u, rfl⟩ := hi
    exact agrees_instructionStep h
  by_cases hd : ∃ u, t = .char '<' :: .char '!' :: u
  · obtain ⟨u, rfl⟩ := hd
    by_cases hc : ∃ v, u = .char '-' :: .char '-' :: v
    · obtain ⟨v, rfl⟩ := hc
      exact agrees_commentStep (hcomment (v ++ more) rfl) h
    rw [prologAt_declaration fun v hv => hc ⟨v, hv⟩] at h
    dsimp only at h
    split at h
    · cases h
    rename_i hlen
    simp only [Bool.not_false, Bool.true_and, Bool.or_eq_true, Bool.and_eq_true,
      decide_eq_true_eq, not_or, not_and, Nat.not_lt, List.length_cons] at hlen
    have hc' : ∀ v, u ++ more ≠ .char '-' :: .char '-' :: v :=
      not_comment_append (by have := hlen.1; omega) hc
    rw [List.cons_append, List.cons_append] at hdoctype tagged ⊢
    rw [prologAt_declaration hc']
    dsimp only
    rw [ite_last]
    cases mayHaveType with
    | false =>
      have same : ∀ {isLast u} (x : Option Input), (match x with
          | some rest => if false then p.doctypeStep isLast rest else p.tagStep isLast u
          | none => p.tagStep isLast u) = p.tagStep isLast u := by
        intro isLast u x
        cases x <;> rfl
      rw [same] at h ⊢
      exact tagged h
    | true =>
      have hl : "<!DOCTYPE".toList.length ≤ (.char '<' :: .char '!' :: u : Input).length :=
        hlen.2 rfl
      have ha : after? "<!DOCTYPE".toList (.char '<' :: .char '!' :: (u ++ more)) =
          (after? "<!DOCTYPE".toList (.char '<' :: .char '!' :: u)).map (· ++ more) :=
        after?_append_of_length_le hl more
      rw [ha] at hdoctype ⊢
      cases hr : after? "<!DOCTYPE".toList (.char '<' :: .char '!' :: u) with
      | none =>
        rw [hr] at h
        exact tagged h
      | some r =>
        rw [hr] at h hdoctype
        exact agrees_doctypeStep (hdoctype (r ++ more) rfl rfl) h
  · obtain ⟨s, t, rfl⟩ : ∃ s u, t = s :: u := List.exists_cons_of_ne_nil fun ht => by
      rw [ht] at h
      cases h
    have hd' : startsWith "<!" (s :: t) = false := by
      refine Bool.eq_false_iff.2 fun hs => ?_
      obtain ⟨u, hu⟩ := Option.isSome_iff_exists.1 hs
      exact hd ⟨u, after?_eq_some_iff.1 hu⟩
    rw [prologAt_tag hd' fun u hu => hi ⟨u, hu⟩] at h
    -- A single symbol that may begin markup waits for the next one.
    have hmore : startsWith "<!" (s :: (t ++ more)) = false ∧
        ∀ u, s :: (t ++ more) ≠ .char '<' :: .char '?' :: u := by
      match t with
      | [] =>
        by_cases hs : s = .char '<'
        · subst hs
          cases h
        · refine ⟨?_, fun u hu => hs (List.cons.inj hu).1⟩
          show (after? ['<', '!'] (s :: more)).isSome = false
          rw [after?, if_neg hs]
          rfl
      | s' :: t =>
        refine ⟨?_, fun u hu => ?_⟩
        · rw [← hd']
          exact startsWith_append_of_length_le (a := s :: s' :: t) (by simp) more
        · cases hu
          exact hi ⟨t, rfl⟩
    rw [List.cons_append] at tagged ⊢
    rw [prologAt_tag hmore.1 hmore.2]
    exact tagged h

theorem agrees_prologStep (hp : p.part = .prolog mayHaveType) (hset : p.IsSettled (t ++ more))
    (h : p.prologStep false mayHaveType t = some (q, rest)) :
    Agrees (p.prologStep true mayHaveType (t ++ more)) q rest more := by
  have hne : skipSpaces t ≠ [] := by
    intro he
    rw [prologStep_eq, he] at h
    cases h
  have hskip : skipSpaces (t ++ more) = skipSpaces t ++ more := by
    unfold skipSpaces at hne ⊢
    rw [List.dropWhile_append, if_neg (by rwa [List.isEmpty_iff])]
  have hahead : p.ahead (t ++ more) = skipSpaces t ++ more := by
    rw [ahead, hp, hskip]
  rw [prologStep_eq] at h ⊢
  rw [hskip]
  refine agrees_prologAt ?_ ?_ ?_ h
  · rw [← hahead]
    exact hset.comment
  · rw [← hahead]
    exact hset.tag
  · rw [← hahead]
    rintro u rfl
    exact hset.doctype u hp

end Prolog

/-! ## Steps over content -/

section Content

variable {p q : Progress} {isLast : Bool} {t rest more : Input}

theorem contentStep_declaration (hn : ∀ u, t ≠ .char '-' :: .char '-' :: u) :
    p.contentStep isLast (.char '<' :: .char '!' :: t) =
      match after? "[CDATA[".toList t with
      | some inside => p.sectionStep isLast inside
      | none => if !isLast && t.length < 7 then none else p.stop :=
  contentStep.eq_5 _ _ _ fun u hu => hn u hu

/-- Text whose end has come in. -/
theorem agrees_dataStep (ht : t.any endsText = true) (h : p.dataStep false t = some (q, rest)) :
    Agrees (p.dataStep true (t ++ more)) q rest more := by
  unfold dataStep at h ⊢
  rw [ite_last]
  split at h
  · cases h
  · rw [characterData_append ht (!true) (!false) more]
    cases h
    exact .inl rfl

theorem agrees_contentStep (hp : p.part = .content) (hset : p.IsSettled (t ++ more))
    {s : Symbol} {u : Input} (ht : t = s :: u) (hs : endsText s = true)
    (h : p.contentStep false t = some (q, rest)) :
    Agrees (p.contentStep true (t ++ more)) q rest more := by
  have hahead : p.ahead (t ++ more) = t ++ more := by rw [ahead, hp]
  have hcomment := hset.comment
  have htag := hset.tag
  rw [hahead] at hcomment htag
  have tagged : p.tagStep false t = some (q, rest) →
      Agrees (p.tagStep true (t ++ more)) q rest more := agrees_tagStep htag
  subst ht
  cases s with
  | stray => cases hs
  | char c =>
    rcases (endsText_char c).1 hs with rfl | rfl
    · cases u with
      | nil => cases h
      | cons s u =>
        by_cases h₁ : s = .char '/'
        · subst h₁
          exact agrees_endStep h
        by_cases h₂ : s = .char '?'
        · subst h₂
          exact agrees_instructionStep h
        by_cases h₃ : s = .char '!'
        · subst h₃
          by_cases hc : ∃ v, u = .char '-' :: .char '-' :: v
          · obtain ⟨v, rfl⟩ := hc
            exact agrees_commentStep (hcomment (v ++ more) rfl) h
          rw [contentStep_declaration fun v hv => hc ⟨v, hv⟩] at h
          have hl : "[CDATA[".toList.length ≤ u.length := by
            cases hr : after? "[CDATA[".toList u with
            | some inside =>
              rw [after?_eq_some_iff.1 hr, List.length_append, inputOf, List.length_map]
              exact Nat.le_add_right ..
            | none =>
              rw [hr] at h
              dsimp only at h
              split at h
              · cases h
              · rename_i hl
                simpa using hl
          have hc' : ∀ v, u ++ more ≠ .char '-' :: .char '-' :: v :=
            not_comment_append (Nat.le_trans (by decide) hl) hc
          rw [List.cons_append, List.cons_append, contentStep_declaration hc',
            after?_append_of_length_le hl]
          cases hr : after? "[CDATA[".toList u with
          | some inside =>
            rw [hr] at h
            exact agrees_sectionStep h
          | none =>
            rw [hr] at h
            dsimp only [Option.map_none] at h ⊢
            rw [ite_last]
            split at h
            · cases h
            · exact agrees_stop h rfl
        · rw [contentStep_tag ⟨h₁, h₂, h₃⟩] at h
          rw [List.cons_append, List.cons_append] at tagged ⊢
          rw [contentStep_tag ⟨h₁, h₂, h₃⟩]
          exact tagged h
    · exact agrees_referenceStep h

end Content

end Progress
end Markup
end DfaTable
