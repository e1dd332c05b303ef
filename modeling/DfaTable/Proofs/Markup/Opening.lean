import DfaTable.Markup.Declaration
import DfaTable.Markup.Doctype
import DfaTable.Proofs.Markup.Ending

/-!
# DfaTable.Proofs.Markup.Opening

What stands before the first tag of a document does not depend on what has not come in yet: the
declaration not once a mark has come in that ends it, the document type not if it stops within what
has come in.

* `Scan.Leaves`, `Scan.IsEnded`: scans that do not pass a mark, and scans that one ends.
* `Declaration.isEnded_read`: the declaration.
* `Scan.IsLocal`: scans that read from the beginning of their input.
* `Doctype.opening_append`: the document type up to its subset.
-/

namespace DfaTable
namespace Markup

open Text

variable {α β : Type}

/-- The same place with more input behind it. -/
def Place.extend (p : Place) (b : Input) : Place := { p with rest := p.rest ++ b }

namespace Scan

theorem run_bind (f : Scan α) (g : α → Scan β) (p : Place) :
    (f >>= g).run p = (g (f.run p).1).run (f.run p).2 := rfl

/-! ## Up to a mark -/

/-- A scan that makes nothing of what is behind a mark that has come in. -/
def IsEnded (m : String) (f : Scan α) : Prop :=
  ∀ p b, hasMark m p.rest = true → f.run (p.extend b) = ((f.run p).1, (f.run p).2.extend b)

/-- Such a scan that also leaves the mark for what comes next. -/
def Leaves (m : String) (f : Scan α) : Prop :=
  IsEnded m f ∧ ∀ p, hasMark m p.rest = true → hasMark m (f.run p).2.rest = true

section Mark

variable {m : String} {f : Scan α} {g : α → Scan β} {c : Prop} [Decidable c]

/-- What comes next only has to make nothing of it after what can have been found. -/
theorem IsEnded.bind_of (hf : Leaves m f) (hg : ∀ p, IsEnded m (g (f.run p).1)) :
    IsEnded m (f >>= g) := by
  intro p b hp
  rw [run_bind, run_bind, hf.1 p b hp]
  exact hg p (f.run p).2 b (hf.2 p hp)

theorem IsEnded.bind (hf : Leaves m f) (hg : ∀ x, IsEnded m (g x)) : IsEnded m (f >>= g) :=
  .bind_of hf fun _ => hg _

theorem Leaves.bind_of (hf : Leaves m f) (hg : ∀ p, Leaves m (g (f.run p).1)) :
    Leaves m (f >>= g) :=
  ⟨.bind_of hf fun p => (hg p).1, fun p hp => (hg p).2 _ (hf.2 p hp)⟩

theorem Leaves.bind (hf : Leaves m f) (hg : ∀ x, Leaves m (g x)) : Leaves m (f >>= g) :=
  hf.bind_of fun _ => hg _

theorem IsEnded.bind_pure (hf : IsEnded m f) {h : α → β} :
    IsEnded m (f >>= fun x => pure (h x)) := by
  intro p b hp
  rw [run_bind, run_bind, hf p b hp]
  rfl

theorem Leaves.ite {f g : Scan α} (hf : Leaves m f) (hg : Leaves m g) :
    Leaves m (if c then f else g) := by
  split
  · exact hf
  · exact hg

theorem leaves_of (h : ∀ p b, hasMark m p.rest = true → hasMark m (f.run p).2.rest = true ∧
    f.run (p.extend b) = ((f.run p).1, (f.run p).2.extend b)) : Leaves m f :=
  ⟨fun p b hp => (h p b hp).2, fun p hp => (h p [] hp).1⟩

theorem leaves_pure (x : α) : Leaves m (pure x) := ⟨fun _ _ _ => rfl, fun _ hp => hp⟩

theorem leaves_fault : Leaves m fault := ⟨fun _ _ _ => rfl, fun _ hp => hp⟩

theorem leaves_require (isMet : Bool) : Leaves m (require isMet) :=
  (leaves_pure ()).ite leaves_fault

theorem leaves_taking {take : Input → α × Input}
    (h : ∀ a b, hasMark m a = true → take (a ++ b) = ((take a).1, (take a).2 ++ b) ∧
      hasMark m (take a).2 = true) : Leaves m (taking take) := by
  refine ⟨fun p b hp => ?_, fun p hp => (h p.rest [] hp).2⟩
  show ((take (p.rest ++ b)).1, { p.extend b with rest := (take (p.rest ++ b)).2 }) = _
  rw [(h p.rest b hp).1]
  rfl

/-- A scan that goes on after a look at what is next, as far as the mark settles it. -/
theorem isEnded_get {h : Input → β} {k : β → Scan α}
    (hh : ∀ a b, hasMark m a = true → h (a ++ b) = h a) (hk : ∀ x, IsEnded m (k x)) :
    IsEnded m (get >>= fun p => k (h p.rest)) := by
  intro p b hp
  show (k (h (p.rest ++ b))).run (p.extend b) = _
  rw [hh p.rest b hp]
  exact hk _ p b hp

theorem leaves_get {h : Input → β} {k : β → Scan α}
    (hh : ∀ a b, hasMark m a = true → h (a ++ b) = h a) (hk : ∀ x, Leaves m (k x)) :
    Leaves m (get >>= fun p => k (h p.rest)) :=
  ⟨isEnded_get hh fun x => (hk x).1, fun p hp => (hk (h p.rest)).2 p hp⟩

variable {first : Char} {more : Text}

theorem leaves_blanks (hm : m.toList = first :: more) (hs : isSpace first = false) :
    Leaves m blanks :=
  leaves_taking fun a b h => by
    obtain ⟨he, hr⟩ := skipSpaces_of_hasMark hm hs h b
    rw [he, startsWithSpace_of_hasMark hm h]
    exact ⟨rfl, hr⟩

theorem leaves_mark (hm : m.toList = first :: more) {other : String}
    (hn : first ∉ other.toList) : Leaves m (mark other) :=
  leaves_taking fun a b h => by
    obtain ⟨he, hr⟩ := after?_of_hasMark hm hn h b
    rw [he]
    cases ho : after? other.toList a with
    | none => exact ⟨rfl, h⟩
    | some r => exact ⟨rfl, hr r ho⟩

theorem leaves_takeChars (hm : m.toList = first :: more) {p : Char → Bool}
    (hp : p first = false) : Leaves m (taking (takeChars p)) :=
  leaves_taking fun _ b h => takeChars_of_hasMark hm hp h b

/-- The mark itself: behind it nothing more is read. -/
theorem isEnded_mark_or {x : α} {f : Scan α} (hf : IsEnded m f) :
    IsEnded m (mark m >>= fun isEnd => if isEnd = true then pure x else f) := by
  intro p b hp
  have he := after?_append_of_length_le (length_le_of_hasMark hp) b
  have hmark : ∀ q : Place, (mark m).run q = ((after? m.toList q.rest).isSome,
      { q with rest := (after? m.toList q.rest).getD q.rest }) := by
    intro q
    show (_, { q with rest := _ }) = _
    cases after? m.toList q.rest <;> rfl
  rw [run_bind, run_bind, hmark, hmark, show (p.extend b).rest = p.rest ++ b from rfl, he]
  cases ha : after? m.toList p.rest with
  | none => exact hf p b hp
  | some rest => rfl

end Mark

end Scan

/-! ## The declaration -/

namespace Declaration

open Scan

/-- The mark that ends a declaration. -/
abbrev Leaves (f : Scan α) : Prop := Scan.Leaves "?>" f

theorem quote?_char (c : Char) (t : Input) (isSound : Bool) :
    quote?.run ⟨.char c :: t, isSound⟩ =
      if c = '\x22' || c = '\x27' then (some c, ⟨t, isSound⟩)
      else (none, ⟨.char c :: t, isSound⟩) := by
  have h : quote?.run ⟨.char c :: t, isSound⟩ =
      let found := if c = '\x22' || c = '\x27' then (some c, t) else (none, .char c :: t)
      (found.1, ⟨found.2, isSound⟩) := rfl
  rw [h]
  split <;> rfl

theorem leaves_quote? : Leaves quote? :=
  leaves_of fun p b h => by
    obtain ⟨t, isSound⟩ := p
    obtain ⟨s, t, rfl⟩ := List.exists_cons_of_ne_nil (ne_nil_of_hasMark rfl h)
    cases s with
    | stray => exact ⟨h, rfl⟩
    | char c =>
      rw [quote?_char, show (⟨_, isSound⟩ : Place).extend b = ⟨.char c :: (t ++ b), isSound⟩ from
        rfl, quote?_char]
      split
      · rename_i hq
        refine ⟨hasMark_of_cons (by rfl) ?_ h, rfl⟩
        rintro ⟨⟩
        revert hq
        decide
      · exact ⟨h, rfl⟩

theorem quote?_eq_some {p : Place} {q : Char} (h : (quote?.run p).1 = some q) :
    q = '\x22' ∨ q = '\x27' := by
  obtain ⟨t, isSound⟩ := p
  match t with
  | [] => cases h
  | .stray :: _ => cases h
  | .char c :: t =>
    rw [quote?_char] at h
    split at h
    · rename_i hq
      cases h
      simpa using hq
    · cases h

theorem leaves_opening? : Leaves opening? := by
  unfold opening?
  refine (leaves_blanks rfl (by decide)).bind fun _ => ?_
  refine (leaves_mark rfl (by decide)).bind fun _ => .ite ?_ ?_
  · refine (leaves_blanks rfl (by decide)).bind fun _ => leaves_quote?.bind fun x => ?_
    cases x with
    | none => exact leaves_fault.bind fun _ => leaves_pure none
    | some q => exact leaves_pure (some q)
  · exact leaves_fault.bind fun _ => leaves_pure none

theorem opening?_eq_some {p : Place} {q : Char} (h : (opening?.run p).1 = some q) :
    q = '\x22' ∨ q = '\x27' := by
  unfold opening? at h
  rw [run_bind, run_bind] at h
  split at h
  · rw [run_bind, run_bind] at h
    cases hq : (quote?.run (blanks.run ((mark "=").run (blanks.run p).2).2).2).1 with
    | none => rw [hq] at h; cases h
    | some d =>
      rw [hq] at h
      cases h
      exact quote?_eq_some hq
  · cases h

theorem leaves_closing {quote : Char} (h : quote = '\x22' ∨ quote = '\x27') :
    Leaves (closing quote) := by
  refine Leaves.bind (leaves_mark rfl ?_) fun _ => (leaves_require _).bind fun _ => leaves_pure _
  rcases h with rfl | rfl <;> decide

theorem number?_point (a : Char) (t : Input) (isSound : Bool) :
    number?.run ⟨.char a :: .char '.' :: t, isSound⟩ =
      if a.isDigit then
        (some (a :: '.' :: (takeChars Char.isDigit t).1), ⟨(takeChars Char.isDigit t).2, isSound⟩)
      else (none, ⟨.char a :: .char '.' :: t, isSound⟩) := by
  show (if a.isDigit then _ else _ : Scan (Option Text)).run _ = _
  split <;> rfl

theorem number?_other (a : Char) {s : Symbol} (hs : s ≠ .char '.') (t : Input) (isSound : Bool) :
    number?.run ⟨.char a :: s :: t, isSound⟩ =
      (none, ⟨if a.isDigit then s :: t else .char a :: s :: t, isSound⟩) := by
  have hrun : number?.run ⟨.char a :: s :: t, isSound⟩ =
      (if a.isDigit then modify ({ · with rest := s :: t }) >>= fun _ => pure none
        else pure none : Scan (Option Text)).run ⟨.char a :: s :: t, isSound⟩ := by
    unfold number?
    cases s with
    | stray => rfl
    | char c =>
      have hc : c ≠ '.' := fun hc => hs (congrArg _ hc)
      simp [hc]
  rw [hrun]
  split <;> rfl

theorem leaves_number? : Leaves number? :=
  leaves_of fun p b h => by
    obtain ⟨t, isSound⟩ := p
    obtain ⟨s, t, rfl⟩ := List.exists_cons_of_ne_nil (ne_nil_of_hasMark rfl h)
    obtain ⟨s', t, rfl⟩ : ∃ s' u, t = s' :: u := List.exists_cons_of_ne_nil (by
      rintro rfl
      exact absurd (length_le_of_hasMark h) (by simp))
    cases s with
    | stray => exact ⟨h, rfl⟩
    | char a =>
      have hd : a.isDigit = true → hasMark "?>" (s' :: t) = true := fun hd =>
        hasMark_of_cons (by rfl) (by rintro ⟨⟩; revert hd; decide) h
      by_cases hs : s' = .char '.'
      · subst hs
        rw [number?_point, show (⟨_, isSound⟩ : Place).extend b =
          ⟨.char a :: .char '.' :: (t ++ b), isSound⟩ from rfl, number?_point]
        split
        · rename_i ha
          obtain ⟨he, hr⟩ := takeChars_of_hasMark (by rfl) (p := Char.isDigit) (by decide)
            (hasMark_of_not_startsWith (hd ha) rfl) b
          rw [he]
          exact ⟨hr, rfl⟩
        · exact ⟨h, rfl⟩
      · rw [number?_other a hs, show (⟨_, isSound⟩ : Place).extend b =
          ⟨.char a :: s' :: (t ++ b), isSound⟩ from rfl, number?_other a hs]
        split
        · exact ⟨hd ‹_›, rfl⟩
        · exact ⟨h, rfl⟩

theorem leaves_version : Leaves version := by
  unfold version
  refine (leaves_mark rfl (by decide)).bind fun _ => .ite ?_ leaves_fault
  refine leaves_opening?.bind_of fun p => ?_
  cases ho : (opening?.run p).1 with
  | none => exact leaves_fault
  | some q =>
    exact leaves_number?.bind fun _ => (leaves_closing (opening?_eq_some ho)).bind fun _ =>
      leaves_require _

theorem leaves_encoding : Leaves encoding := by
  unfold encoding
  refine (leaves_blanks rfl (by decide)).bind fun _ => ?_
  refine (leaves_mark rfl (by decide)).bind fun _ => .ite ?_ (leaves_pure _)
  refine leaves_opening?.bind_of fun p => ?_
  cases ho : (opening?.run p).1 with
  | none => exact leaves_pure _
  | some q =>
    have hc := leaves_closing (opening?_eq_some ho)
    refine leaves_get (h := fun t => t.head?.any (·.holds Char.isAlpha)) (k := fun isName => do
      require isName
      if isName then
        let _ ← taking (takeChars isEncodingChar)
      return (← closing q) && isName) ?_ ?_
    · intro a b h
      obtain ⟨s, a, rfl⟩ := List.exists_cons_of_ne_nil (ne_nil_of_hasMark rfl h)
      rfl
    · intro isName
      refine (leaves_require _).bind fun _ => ?_
      refine .ite ?_ ?_
      · exact (leaves_takeChars rfl (by decide)).bind fun _ => hc.bind fun _ => leaves_pure _
      · exact hc.bind fun _ => leaves_pure _

theorem leaves_standalone : Leaves standalone := by
  unfold standalone
  refine (leaves_blanks rfl (by decide)).bind fun _ => ?_
  refine (leaves_mark rfl (by decide)).bind fun _ => .ite ?_ (leaves_pure _)
  refine leaves_opening?.bind_of fun p => ?_
  cases ho : (opening?.run p).1 with
  | none => exact leaves_pure _
  | some q =>
    have hc := leaves_closing (opening?_eq_some ho)
    refine (leaves_mark rfl (by decide)).bind fun isAlone => ?_
    refine .ite ?_ ?_
    · exact (leaves_mark rfl (by decide)).bind fun _ => (leaves_require _).bind fun _ =>
        hc.bind fun _ => leaves_pure _
    · exact hc.bind fun _ => leaves_pure _

theorem afterTag_append {a : Input} (h : .char '>' ∈ a) (b : Input) :
    afterTag (a ++ b) = afterTag a ++ b := by
  fun_induction afterTag a with
  | case1 => cases h
  | case2 => rfl
  | case3 s a hs ih =>
    have ha : .char '>' ∈ a := by
      rcases List.mem_cons.1 h with he | ha
      · exact absurd he.symm hs
      · exact ha
    rw [List.cons_append, afterTag.eq_3 _ _ hs]
    exact ih ha

theorem isEnded_ending : IsEnded "?>" ending := by
  unfold ending
  refine .bind (leaves_blanks rfl (by decide)) fun _ => isEnded_mark_or ?_
  refine .bind leaves_fault fun _ p b hp => ?_
  have ht : .char '>' ∈ p.rest := by
    obtain ⟨u, v, hu⟩ := hasMark_iff.1 hp
    rw [hu]
    exact List.mem_append_right _ (List.mem_append_left _ (by decide))
  show ((), ({ p.extend b with rest := afterTag (p.rest ++ b) } : Place)) = _
  rw [afterTag_append ht]
  rfl

/-- What is read after the encoding. -/
def conclusion : Scan Bool := do
  let isAlone ← standalone
  ending
  return isAlone

theorem isEnded_conclusion : IsEnded "?>" conclusion := by
  unfold conclusion
  exact .bind leaves_standalone fun _ => isEnded_ending.bind_pure

theorem isEnded_require {f : Scan α} (hf : IsEnded "?>" f) :
    IsEnded "?>" (get >>= fun p => require (startsWithSpace p.rest) >>= fun _ => f) :=
  isEnded_get (h := startsWithSpace) (k := fun isSpaced => require isSpaced >>= fun _ => f)
    (fun _ b h => startsWithSpace_of_hasMark rfl h b)
    fun isSpaced => .bind (leaves_require isSpaced) fun _ => hf

/-- A declaration whose end has come in is read as it is, whatever is behind it. -/
theorem isEnded_read : IsEnded "?>" read := by
  unfold read
  refine .bind (leaves_blanks rfl (by decide)) fun _ => .bind leaves_version fun _ => ?_
  refine isEnded_mark_or (isEnded_require (.bind leaves_encoding fun hasEncoding => ?_))
  cases hasEncoding with
  | true => exact isEnded_mark_or (isEnded_require isEnded_conclusion)
  | false => exact isEnded_conclusion

end Declaration

/-! ## Scans from the beginning -/

namespace Scan

/-- A scan that reads from the beginning of its input, without a look at what is behind. -/
structure IsLocal (f : Scan α) : Prop where
  length_le : ∀ p, (f.run p).2.rest.length ≤ p.rest.length
  append_eq : ∀ p b, b.length ≤ (f.run (p.extend b)).2.rest.length →
    f.run (p.extend b) = ((f.run p).1, (f.run p).2.extend b)

section Local

variable {f : Scan α} {g : α → Scan β} {c : Prop} [Decidable c]

theorem IsLocal.bind (hf : IsLocal f) (hg : ∀ x, IsLocal (g x)) : IsLocal (f >>= g) where
  length_le p := Nat.le_trans ((hg _).length_le _) (hf.length_le p)
  append_eq p b h := by
    rw [run_bind] at h ⊢
    have he := hf.append_eq p b (Nat.le_trans h ((hg _).length_le _))
    rw [he] at h ⊢
    exact (hg _).append_eq _ b h

theorem IsLocal.ite {f g : Scan α} (hf : IsLocal f) (hg : IsLocal g) :
    IsLocal (if c then f else g) := by
  split
  · exact hf
  · exact hg

theorem isLocal_pure (x : α) : IsLocal (pure x) := ⟨fun _ => Nat.le_refl _, fun _ _ _ => rfl⟩

theorem isLocal_fault : IsLocal fault := ⟨fun _ => Nat.le_refl _, fun _ _ _ => rfl⟩

theorem isLocal_require (isMet : Bool) : IsLocal (require isMet) :=
  (isLocal_pure ()).ite isLocal_fault

theorem isLocal_taking {take : Input → α × Input} (h : Takes take) : IsLocal (taking take) where
  length_le p := h.length_le p.rest
  append_eq p b hl := by
    have he := h.append_eq p.rest b hl
    show ((take (p.rest ++ b)).1, ({ p.extend b with rest := (take (p.rest ++ b)).2 } : Place)) = _
    rw [he]
    rfl

theorem isLocal_reading {read : Input → Reading α} (h : Markup.IsLocal read) :
    IsLocal (reading read) where
  length_le p := h.length_le p.rest
  append_eq p b hl := by
    have he := h.append_eq p.rest b hl
    show ((read (p.rest ++ b)).value, ({ rest := (read (p.rest ++ b)).rest
                                         isSound := p.isSound && (read (p.rest ++ b)).isSound } :
      Place)) = _
    rw [he]
    rfl

end Local

theorem isLocal_blanks : IsLocal blanks := isLocal_taking takes_skipSpaces

theorem isLocal_name : IsLocal name := isLocal_taking takes_takeName

theorem isLocal_mark (m : String) : IsLocal (mark m) := by
  refine isLocal_taking ⟨fun t => ?_, fun a b h => ?_⟩
  · split
    · exact length_after?_le ‹_›
    · exact Nat.le_refl _
  · cases hr : after? m.toList (a ++ b) with
    | some rest =>
      rw [hr] at h
      obtain ⟨r, ha, rfl⟩ := after?_append hr h
      rw [ha]
    | none =>
      cases ha : after? m.toList a with
      | none => rfl
      | some r =>
        rw [after?_append_of_some ha] at hr
        cases hr

theorem isLocal_quote? : IsLocal quote? := by
  refine isLocal_taking ⟨fun t => ?_, fun a b h => ?_⟩
  · split
    · split
      · exact Nat.le_succ _
      · exact Nat.le_refl _
    · exact Nat.le_refl _
  · cases a with
    | nil =>
      cases b with
      | nil => rfl
      | cons s b =>
        cases s with
        | stray => rfl
        | char c =>
          dsimp only [List.nil_append] at h ⊢
          split
          · rename_i hc
            rw [if_pos hc] at h
            simp only [List.length_cons] at h
            omega
          · rfl
    | cons s a =>
      cases s with
      | stray => rfl
      | char c =>
        dsimp only [List.cons_append]
        split <;> rfl

theorem length_literalText_le (isAllowed : Char → Bool) (quote : Char) (t : Input) :
    (literalText isAllowed quote t).rest.length ≤ t.length := by
  fun_induction literalText isAllowed quote t with
  | case1 => exact Nat.le_refl _
  | case2 _ _ ih => exact Nat.le_succ_of_le ih
  | case3 => exact Nat.le_refl _
  | case4 _ _ _ ih => exact Nat.le_succ_of_le ih
  | case5 => exact Nat.le_refl _

theorem isLocal_literalText (isAllowed : Char → Bool) (quote : Char) :
    Markup.IsLocal (literalText isAllowed quote) where
  length_le := length_literalText_le isAllowed quote
  append_eq a b h := by
    generalize ht : a ++ b = t at h ⊢
    fun_induction literalText isAllowed quote t generalizing a with
    | case1 =>
      obtain ⟨rfl, rfl⟩ := List.append_eq_nil_iff.1 ht
      rfl
    | case2 t hs ih =>
      have hl := Nat.le_trans h (length_literalText_le isAllowed quote t)
      obtain ⟨a, rfl, rfl⟩ := append_split [.stray] ht hl
      rw [ih a rfl h, List.singleton_append, literalText.eq_2, if_pos hs]
      rfl
    | case3 t hs =>
      cases a with
      | nil =>
        rw [← ht]
        rfl
      | cons s a =>
        cases ht
        rw [literalText.eq_2, if_neg hs]
        rfl
    | case4 c t hc ih =>
      have hl := Nat.le_trans h (length_literalText_le isAllowed quote t)
      obtain ⟨a, rfl, rfl⟩ := append_split [.char c] ht hl
      rw [ih a rfl h, List.singleton_append, literalText.eq_3, if_pos hc]
      rfl
    | case5 c t hc =>
      cases a with
      | nil =>
        rw [← ht]
        rfl
      | cons s a =>
        cases ht
        rw [literalText.eq_3, if_neg hc]
        rfl

theorem isLocal_upTo (isAllowed : Char → Bool) (quote : Char) : IsLocal (upTo isAllowed quote) :=
  (isLocal_reading (isLocal_literalText isAllowed quote)).bind fun _ =>
    (isLocal_mark _).bind fun _ => (isLocal_require _).bind fun _ => isLocal_pure _

theorem isLocal_literal? (isAllowed : Char → Bool) : IsLocal (literal? isAllowed) := by
  refine isLocal_quote?.bind fun x => ?_
  cases x with
  | none => exact isLocal_fault.bind fun _ => isLocal_pure none
  | some quote => exact (isLocal_upTo isAllowed quote).bind fun _ => isLocal_pure _

end Scan

/-! ## The document type -/

namespace Doctype

open Scan

theorem isLocal_systemExternal : Scan.IsLocal systemExternal :=
  isLocal_blanks.bind fun _ => (isLocal_require _).bind fun _ => (isLocal_literal? _).bind fun _ =>
    isLocal_pure _

theorem isLocal_publicExternal : Scan.IsLocal (publicExternal false) := by
  refine isLocal_blanks.bind fun _ => (isLocal_require _).bind fun _ =>
    (isLocal_literal? _).bind fun known => isLocal_blanks.bind fun isSpaced => ?_
  -- Only in a notation it matters what is next.
  have h : Scan.IsLocal (do
      require isSpaced
      let address ← literal? isChar
      return { address, isNamed := known.isSome || address.isSome : External }) :=
    (isLocal_require _).bind fun _ => (isLocal_literal? _).bind fun _ => isLocal_pure _
  exact ⟨h.length_le, h.append_eq⟩

theorem isLocal_external : Scan.IsLocal (external false) :=
  (isLocal_mark _).bind fun _ => .ite isLocal_systemExternal <|
    (isLocal_mark _).bind fun _ => .ite isLocal_publicExternal (isLocal_pure _)

/-- A document type up to where its subset may begin. -/
def upToSubset : Scan External := do
  require (← blanks)
  let n ← name
  require (!n.isEmpty)
  let _ ← blanks
  let e ← external false
  let _ ← blanks
  return e

theorem isLocal_upToSubset : Scan.IsLocal upToSubset :=
  isLocal_blanks.bind fun _ => (isLocal_require _).bind fun _ => isLocal_name.bind fun _ =>
    (isLocal_require _).bind fun _ => isLocal_blanks.bind fun _ => isLocal_external.bind fun _ =>
      isLocal_blanks.bind fun _ => isLocal_pure _

/-- The end of a document type without a subset; whether there is a subset. -/
def subsetOrEnd (r : Rules) (e : External) : Scan (Rules × Bool) := do
  let hasSubset ← sees "["
  if !hasSubset then require (← mark ">")
  return ({ r with isOpen := r.isOpen || e.isNamed }, hasSubset)

theorem opening_eq (r : Rules) : opening r = upToSubset >>= subsetOrEnd r := by
  simp only [opening, upToSubset, bind_assoc, pure_bind]
  rfl

/-- The end of a document type. -/
def endOfType : Scan Unit := do require (← mark ">")

theorem isLocal_endOfType : Scan.IsLocal endOfType :=
  (isLocal_mark _).bind fun _ => isLocal_require _

variable (r : Rules) (e : External)

theorem subsetOrEnd_of_startsWith {p : Place} (h : startsWith "[" p.rest = true) :
    (subsetOrEnd r e).run p = (({ r with isOpen := r.isOpen || e.isNamed }, true), p) := by
  unfold subsetOrEnd
  rw [run_bind, show (sees "[").run p = (true, p) from congrArg (·, p) h]
  rfl

theorem subsetOrEnd_of_not_startsWith {p : Place} (h : startsWith "[" p.rest = false) :
    (subsetOrEnd r e).run p =
      (({ r with isOpen := r.isOpen || e.isNamed }, false), (endOfType.run p).2) := by
  unfold subsetOrEnd
  rw [run_bind, show (sees "[").run p = (false, p) from congrArg (·, p) h]
  rfl

theorem length_subsetOrEnd_le (p : Place) :
    ((subsetOrEnd r e).run p).2.rest.length ≤ p.rest.length := by
  cases h : startsWith "[" p.rest with
  | true => rw [subsetOrEnd_of_startsWith r e h]
  | false =>
    rw [subsetOrEnd_of_not_startsWith r e h]
    exact isLocal_endOfType.length_le p

/-- Where a document type goes on with a subset, one begins. -/
theorem startsWith_of_opening {p : Place} (h : ((opening r).run p).1.2 = true) :
    startsWith "[" ((opening r).run p).2.rest = true := by
  rw [opening_eq, run_bind] at h ⊢
  cases hs : startsWith "[" (upToSubset.run p).2.rest with
  | true =>
    rw [subsetOrEnd_of_startsWith _ _ hs]
    exact hs
  | false =>
    rw [subsetOrEnd_of_not_startsWith _ _ hs] at h
    cases h

/-- A document type that ends within what has come in, or goes on there with a subset, is read as
it is, whatever is behind it. -/
theorem opening_append (r : Rules) {p : Place} {b : Input}
    (h : b.length + (if ((opening r).run (p.extend b)).1.2 then 1 else 0) ≤
      ((opening r).run (p.extend b)).2.rest.length) :
    (opening r).run (p.extend b) =
      (((opening r).run p).1, ((opening r).run p).2.extend b) := by
  have hlocal := isLocal_upToSubset
  rw [opening_eq, run_bind] at h ⊢
  rw [run_bind]
  have hle : b.length ≤ (upToSubset.run (p.extend b)).2.rest.length :=
    Nat.le_trans (Nat.le_trans (Nat.le_add_right ..) h) (length_subsetOrEnd_le ..)
  rw [hlocal.append_eq p b hle] at h ⊢
  generalize (upToSubset.run p).1 = e at h ⊢
  generalize (upToSubset.run p).2 = p at h ⊢
  dsimp only at h ⊢
  cases hs : startsWith "[" (p.rest ++ b) with
  | true =>
    rw [subsetOrEnd_of_startsWith _ _ (p := p.extend b) hs] at h ⊢
    have hl : "[".toList.length ≤ p.rest.length := by
      rw [if_pos rfl, Place.extend, List.length_append] at h
      show 1 ≤ p.rest.length
      omega
    rw [startsWith_append_of_length_le hl] at hs
    rw [subsetOrEnd_of_startsWith _ _ hs]
  | false =>
    rw [subsetOrEnd_of_not_startsWith _ _ (p := p.extend b) hs] at h ⊢
    have hp : startsWith "[" p.rest = false := startsWith_eq_false_of_append hs
    have he := isLocal_endOfType.append_eq p b (Nat.le_trans (Nat.le_add_right ..) h)
    rw [subsetOrEnd_of_not_startsWith _ _ hp, he]

end Doctype
end Markup
end DfaTable
