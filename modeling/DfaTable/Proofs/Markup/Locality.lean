import DfaTable.Markup.Data
import DfaTable.Markup.Remark
import DfaTable.Markup.StartTag
import DfaTable.Proofs.Markup.Scanning

/-!
# DfaTable.Proofs.Markup.Locality

What a reader makes of its input does not depend on what stands behind the place where it stops. So
a reader that stops within what has come in of a document reads the same whether or not the rest of
it is there.

* `Takes`, `IsLocal`: this property, for readers of both kinds.
* `Takes.suffix`, `IsLocal.suffix`: what such a reader leaves is an end of its input.
* `isLocal_reference`, `isLocal_comment`, `isLocal_sectionData`, ...: the readers of markup.
* `startTag?_append`: a start tag, of which there may be none.
-/

namespace DfaTable
namespace Markup

open Text

variable {α β : Type}

/-- The same reading with more input behind what is left. -/
def Reading.extend (r : Reading α) (b : Input) : Reading α := { r with rest := r.rest ++ b }

/-- A function takes from the beginning of its input, without a look at what is behind. -/
structure Takes (f : Input → α × Input) : Prop where
  length_le : ∀ t, (f t).2.length ≤ t.length
  append_eq : ∀ a b, b.length ≤ (f (a ++ b)).2.length → f (a ++ b) = ((f a).1, (f a).2 ++ b)

/-- A reader reads from the beginning of its input, without a look at what is behind. -/
structure IsLocal (f : Input → Reading α) : Prop where
  length_le : ∀ t, (f t).rest.length ≤ t.length
  append_eq : ∀ a b, b.length ≤ (f (a ++ b)).rest.length → f (a ++ b) = (f a).extend b

/-- An end of an input that is no longer than what follows some symbols does not reach into them. -/
theorem append_split (u : Input) {t a b : Input} (h : a ++ b = u ++ t)
    (hl : b.length ≤ t.length) : ∃ a', a = u ++ a' ∧ a' ++ b = t := by
  rcases List.append_eq_append_iff.1 h with ⟨v, rfl, rfl⟩ | ⟨v, rfl, rfl⟩
  · have hv : v = [] := List.eq_nil_of_length_eq_zero (by rw [List.length_append] at hl; omega)
    exact ⟨[], by simp [hv], by simp [hv]⟩
  · exact ⟨v, rfl, rfl⟩

/-! ## What is left -/

theorem Takes.suffix {f : Input → α × Input} (h : Takes f) (t : Input) : (f t).2 <:+ t := by
  -- The end of the input that is as long as what is left is what is left.
  obtain ⟨a, b, hab, hb⟩ : ∃ a b, a ++ b = t ∧ b.length = (f t).2.length := by
    refine ⟨_, _, List.take_append_drop (t.length - (f t).2.length) t, ?_⟩
    have hl := h.length_le t
    rw [List.length_drop]
    omega
  have he := h.append_eq a b (by rw [hab, hb])
  rw [hab] at he
  have hn : (f a).2 = [] := by
    refine List.eq_nil_of_length_eq_zero ?_
    have hlen := congrArg (fun r => r.2.length) he
    simp only [List.length_append] at hlen
    omega
  rw [he, hn]
  exact ⟨a, hab⟩

theorem IsLocal.takes {f : Input → Reading α} (h : IsLocal f) :
    Takes fun t => (((f t).value, (f t).isSound), (f t).rest) where
  length_le := h.length_le
  append_eq a b hl := by rw [h.append_eq a b hl]; rfl

theorem IsLocal.suffix {f : Input → Reading α} (h : IsLocal f) (t : Input) : (f t).rest <:+ t :=
  h.takes.suffix t

/-- A reader behind what has been taken. -/
theorem Takes.isLocal {f : Input → α × Input} {g : α → Input → Reading β} (hf : Takes f)
    (hg : ∀ x, IsLocal (g x)) : IsLocal fun t => g (f t).1 (f t).2 where
  length_le t := Nat.le_trans ((hg _).length_le _) (hf.length_le t)
  append_eq a b h := by
    have he := hf.append_eq a b (Nat.le_trans h ((hg _).length_le _))
    rw [he] at h ⊢
    exact (hg _).append_eq _ b h

/-- Reads nothing. -/
def stay (x : α) (isSound : Bool) (t : Input) : Reading α := { value := x, rest := t, isSound }

theorem isLocal_stay (x : α) (isSound : Bool) : IsLocal (stay x isSound) where
  length_le _ := Nat.le_refl _
  append_eq _ _ _ := rfl

/-- Reads on behind the first symbol as this one says, or nothing if it says nothing. -/
def branch (f : Symbol → Option (Input → Reading α)) (x : α) (isSound : Bool) :
    Input → Reading α
  | [] => stay x isSound []
  | s :: t => ((f s).map fun g => g t).getD (stay x isSound (s :: t))

theorem branch_eq_stay {f : Symbol → Option (Input → Reading α)} {x : α} {isSound : Bool}
    {t : Input} (h : ∀ s u, t = s :: u → f s = none) : branch f x isSound t = stay x isSound t := by
  cases t with
  | nil => rfl
  | cons s t =>
    rw [branch, h s t rfl]
    rfl

theorem isLocal_branch {f : Symbol → Option (Input → Reading α)} {x : α} {isSound : Bool}
    (h : ∀ s g, f s = some g → IsLocal g) : IsLocal (branch f x isSound) where
  length_le t := by
    cases t with
    | nil => exact Nat.le_refl _
    | cons s t =>
      cases hs : f s with
      | none => simp [branch, hs, stay]
      | some g =>
        have hl := (h s g hs).length_le t
        simp only [branch, hs, Option.map_some, Option.getD_some, List.length_cons]
        omega
  append_eq a b hl := by
    cases a with
    | nil =>
      rw [List.nil_append] at hl ⊢
      cases b with
      | nil => rfl
      | cons s b =>
        cases hs : f s with
        | none => simp [branch, hs, stay, Reading.extend]
        | some g =>
          have hg := (h s g hs).length_le b
          simp only [branch, hs, Option.map_some, Option.getD_some, List.length_cons] at hl
          omega
    | cons s a =>
      rw [List.cons_append] at hl ⊢
      cases hs : f s with
      | none => simp [branch, hs, stay, Reading.extend]
      | some g =>
        simp only [branch, hs, Option.map_some, Option.getD_some] at hl ⊢
        exact (h s g hs).append_eq a b hl

/-! ## Marks, blanks and names -/

theorem after?_append {mark : Text} {a b rest : Input} (h : after? mark (a ++ b) = some rest)
    (hl : b.length ≤ rest.length) : ∃ r, after? mark a = some r ∧ rest = r ++ b := by
  obtain ⟨r, rfl, rfl⟩ := append_split (inputOf mark) (after?_eq_some_iff.1 h) hl
  exact ⟨r, after?_inputOf mark r, rfl⟩

theorem after?_append_of_some {mark : Text} {a r : Input} (h : after? mark a = some r)
    (b : Input) : after? mark (a ++ b) = some (r ++ b) := by
  rw [after?_eq_some_iff] at h ⊢
  rw [h, List.append_assoc]

/-- Whether a mark stands at the beginning is settled by as many symbols as it has. -/
theorem after?_append_of_length_le {mark : Text} {a : Input} (h : mark.length ≤ a.length)
    (b : Input) : after? mark (a ++ b) = (after? mark a).map (· ++ b) := by
  induction mark generalizing a with
  | nil => rfl
  | cons m mark ih =>
    cases a with
    | nil => simp at h
    | cons s a =>
      rw [List.cons_append, after?, after?]
      split
      · exact ih (Nat.le_of_succ_le_succ h)
      · rfl

theorem startsWith_append_of_length_le {mark : String} {a : Input}
    (h : mark.toList.length ≤ a.length) (b : Input) :
    startsWith mark (a ++ b) = startsWith mark a := by
  rw [startsWith, startsWith, after?_append_of_length_le h, Option.isSome_map]

theorem startsWith_eq_false_of_append {mark : String} {a b : Input}
    (h : startsWith mark (a ++ b) = false) : startsWith mark a = false := by
  cases ha : after? mark.toList a with
  | none => rw [startsWith, ha]; rfl
  | some r =>
    rw [startsWith, after?_append_of_some ha] at h
    cases h

theorem takes_skipSpaces : Takes fun t => (startsWithSpace t, skipSpaces t) where
  length_le := length_skipSpaces_le
  append_eq a b h := by
    induction a with
    | nil =>
      cases b with
      | nil => rfl
      | cons s b =>
        have hb := length_skipSpaces_le b
        dsimp only [List.nil_append] at h ⊢
        cases hs : s.holds isSpace with
        | true =>
          rw [show skipSpaces (s :: b) = skipSpaces b from List.dropWhile_cons_of_pos hs] at h
          simp only [List.length_cons] at h
          omega
        | false =>
          rw [show skipSpaces (s :: b) = s :: b from
            List.dropWhile_cons_of_neg (by rw [hs]; decide)]
          simp [startsWithSpace, hs, skipSpaces]
    | cons s a ih =>
      dsimp only at h ih ⊢
      cases hs : s.holds isSpace with
      | true =>
        have hskip : ∀ u, skipSpaces (s :: u) = skipSpaces u := fun u =>
          List.dropWhile_cons_of_pos hs
        rw [List.cons_append, hskip] at h ⊢
        rw [hskip, (Prod.mk.inj (ih h)).2]
        rfl
      | false =>
        have hskip : ∀ u, skipSpaces (s :: u) = s :: u := fun u =>
          List.dropWhile_cons_of_neg (by rw [hs]; decide)
        rw [List.cons_append, hskip, hskip]
        rfl

theorem takes_takeChars (p : Char → Bool) : Takes (takeChars p) where
  length_le := length_takeChars_le p
  append_eq a b h := by
    induction a with
    | nil =>
      cases b with
      | nil => rfl
      | cons s b =>
        cases s with
        | stray => rfl
        | char c =>
          have hb := length_takeChars_le p b
          simp only [List.nil_append, takeChars] at h ⊢
          split
          · rename_i hc
            rw [if_pos hc] at h
            simp only [List.length_cons] at h
            omega
          · rfl
    | cons s a ih =>
      cases s with
      | stray => rfl
      | char c =>
        simp only [List.cons_append, takeChars] at h ⊢
        split
        · rename_i hc
          rw [if_pos hc] at h
          rw [ih h]
        · rfl

theorem takes_takeName : Takes takeName where
  length_le := length_takeName_le
  append_eq a b h := by
    have hchars := takes_takeChars isNameChar
    cases a with
    | nil =>
      unfold takeName at h ⊢
      rw [List.nil_append] at h ⊢
      split
      · rename_i hs
        rw [if_pos hs] at h
        exact hchars.append_eq [] b h
      · rfl
    | cons s a =>
      unfold takeName at h ⊢
      rw [List.cons_append, List.head?_cons, List.head?_cons] at *
      split
      · rename_i hs
        rw [if_pos hs] at h
        exact hchars.append_eq (s :: a) b h
      · rfl

/-! ## References -/

theorem takes_takeNumber (base index n : Nat) : Takes (takeNumber base index n) where
  length_le := length_takeNumber_le base index n
  append_eq a b h := by
    generalize ht : a ++ b = t at h ⊢
    fun_induction takeNumber base index n t generalizing a with
    | case1 =>
      obtain ⟨rfl, rfl⟩ := List.append_eq_nil_iff.1 ht
      rfl
    | case2 index n t =>
      cases a with
      | nil => rw [← ht]; rfl
      | cons s a => cases ht; rfl
    | case3 index n t =>
      obtain ⟨a, rfl, rfl⟩ := append_split [.char ';'] ht h
      rfl
    | case4 index n c t hc hd =>
      cases a with
      | nil => rw [← ht]; rfl
      | cons s a =>
        cases ht
        rw [takeNumber.eq_4 _ _ _ _ _ hc, hd]
        rfl
    | case5 index n c t hc d hd hi =>
      cases a with
      | nil => rw [← ht]; rfl
      | cons s a =>
        cases ht
        rw [takeNumber.eq_4 _ _ _ _ _ hc, hd]
        dsimp only
        rw [if_pos hi]
        rfl
    | case6 index n c t hc d hd hi ih =>
      have hl := Nat.le_trans h (length_takeNumber_le base (index + 1) (n * base + d) t)
      obtain ⟨a, rfl, rfl⟩ := append_split [.char c] ht hl
      rw [ih a rfl h, List.singleton_append, takeNumber.eq_4 _ _ _ _ _ hc, hd]
      dsimp only
      rw [if_neg hi]

theorem isLocal_numberReference (base : Nat) : IsLocal (numberReference base) where
  length_le := length_numberReference_le base
  append_eq a b h := by
    have he := (takes_takeNumber base 0 0).append_eq a b h
    simp only [numberReference, he, Reading.extend]

/-- A reference behind its name. -/
def behindName (isLax : Bool) (name : Text) : Input → Reading Referent :=
  if name = [] then stay (.byName none) false
  else branch (fun s => if s = .char ';' then some (stay (.byName (namedCharacters.lookup name))
    ((namedCharacters.lookup name).isSome || isLax)) else none) (.byName none) false

theorem isLocal_behindName (isLax : Bool) (name : Text) : IsLocal (behindName isLax name) := by
  unfold behindName
  split
  · exact isLocal_stay ..
  · refine isLocal_branch fun s g hg => ?_
    split at hg
    · cases hg
      exact isLocal_stay ..
    · cases hg

theorem nameReference_eq (isLax : Bool) (t : Input) :
    nameReference isLax t = behindName isLax (takeName t).1 (takeName t).2 := by
  unfold nameReference behindName
  split
  · rename_i h
    rw [h]
    rfl
  · rename_i name rest hn h
    rw [h, if_neg hn]
    rfl
  · rename_i name rest hn hr h
    rw [h, if_neg hn]
    refine (branch_eq_stay ?_).symm
    rintro s u rfl
    exact if_neg fun hs => hr u (by rw [hs])

theorem isLocal_nameReference (isLax : Bool) : IsLocal (nameReference isLax) := by
  rw [funext (nameReference_eq isLax)]
  exact takes_takeName.isLocal (isLocal_behindName isLax)

theorem isLocal_reference (isLax : Bool) : IsLocal (reference isLax) where
  length_le := length_reference_le isLax
  append_eq a b h := by
    generalize ht : a ++ b = t at h ⊢
    fun_cases reference isLax t with
    | case1 t =>
      rw [reference.eq_1] at h
      have hl := Nat.le_trans h ((isLocal_numberReference 16).length_le t)
      obtain ⟨a, rfl, rfl⟩ := append_split [.char '#', .char 'x'] ht hl
      exact (isLocal_numberReference 16).append_eq a b h
    | case2 t hn =>
      rw [reference.eq_2 _ _ hn] at h
      have hl := Nat.le_trans h ((isLocal_numberReference 10).length_le t)
      obtain ⟨a, rfl, rfl⟩ := append_split [.char '#'] ht hl
      rw [List.singleton_append, reference.eq_2]
      · exact (isLocal_numberReference 10).append_eq a b h
      · rintro u rfl
        exact hn (u ++ b) rfl
    | case3 t hx hn =>
      rw [reference.eq_3 _ _ hx hn] at h
      subst ht
      rw [reference.eq_3]
      · exact (isLocal_nameReference isLax).append_eq a b h
      · rintro u rfl
        exact hx (u ++ b) rfl
      · rintro u rfl
        exact hn (u ++ b) rfl

/-! ## Start tags -/

theorem valueUntil_ampersand (isLax : Bool) {quote : Char} (hq : '&' ≠ quote) (t : Input) :
    valueUntil isLax quote (.char '&' :: t) =
      match (reference isLax t).value with
      | .byNumber none => { value := none, rest := (reference isLax t).rest, isSound := false }
      | .byNumber (some d) =>
        (valueUntil isLax quote (reference isLax t).rest).push d (reference isLax t).isSound
      | .byName (some d) =>
        (valueUntil isLax quote (reference isLax t).rest).push d (reference isLax t).isSound
      | .byName none =>
        let more := valueUntil isLax quote (reference isLax t).rest
        { more with isSound := (reference isLax t).isSound && more.isSound } := by
  refine (valueUntil.eq_4 _ _ _ _ (fun _ _ h => absurd h (by decide))).trans
    ((if_neg hq).trans ((if_pos rfl).trans ?_))
  generalize reference isLax t = r
  obtain ⟨value, rest, isSound⟩ := r
  rcases value with (_ | d) | (_ | d) <;> rfl

theorem isLocal_valueUntil (isLax : Bool) (quote : Char) : IsLocal (valueUntil isLax quote) where
  length_le := length_valueUntil_le isLax quote
  append_eq a b h := by
    have hle := length_valueUntil_le isLax quote
    have href := isLocal_reference isLax
    generalize ht : a ++ b = t at h ⊢
    fun_induction valueUntil isLax quote t generalizing a with
    | case1 =>
      obtain ⟨rfl, rfl⟩ := List.append_eq_nil_iff.1 ht
      rw [valueUntil]
      rfl
    | case2 t ih =>
      obtain ⟨a, rfl, rfl⟩ := append_split [.stray] ht (Nat.le_trans h (hle t))
      rw [ih a rfl h, List.singleton_append, valueUntil.eq_2]
      rfl
    | case3 t ih =>
      obtain ⟨a, rfl, rfl⟩ := append_split [.char '\r', .char '\n'] ht (Nat.le_trans h (hle t))
      rw [ih a rfl h, List.cons_append, List.singleton_append, valueUntil.eq_3]
      rfl
    | case4 t hn =>
      obtain ⟨a, rfl, rfl⟩ := append_split [.char quote] ht h
      rw [List.singleton_append, valueUntil.eq_4, if_pos rfl]
      · rfl
      · rintro u rfl
        exact hn (u ++ b) rfl
    | case5 t r hv hn hq =>
      obtain ⟨a, rfl, rfl⟩ := append_split [.char '&'] ht (Nat.le_trans h (href.length_le t))
      have hr : r = (reference isLax a).extend b := href.append_eq a b h
      rw [List.singleton_append, valueUntil_ampersand isLax hq]
      rw [hr] at hv
      simp only [hr, show (reference isLax a).value = .byNumber none from hv]
      rfl
    | case6 t r d hv hn hq ih =>
      have hl := Nat.le_trans h (hle r.rest)
      obtain ⟨a, rfl, rfl⟩ := append_split [.char '&'] ht (Nat.le_trans hl (href.length_le t))
      have hr : r = (reference isLax a).extend b := href.append_eq a b hl
      have hm : valueUntil isLax quote r.rest =
          (valueUntil isLax quote (reference isLax a).rest).extend b :=
        ih (reference isLax a).rest (by rw [hr]; rfl) h
      rw [hm, List.singleton_append, valueUntil_ampersand isLax hq]
      rw [hr] at hv
      simp only [hr, show (reference isLax a).value = .byNumber (some d) from hv]
      rfl
    | case7 t r d hv hn hq ih =>
      have hl := Nat.le_trans h (hle r.rest)
      obtain ⟨a, rfl, rfl⟩ := append_split [.char '&'] ht (Nat.le_trans hl (href.length_le t))
      have hr : r = (reference isLax a).extend b := href.append_eq a b hl
      have hm : valueUntil isLax quote r.rest =
          (valueUntil isLax quote (reference isLax a).rest).extend b :=
        ih (reference isLax a).rest (by rw [hr]; rfl) h
      rw [hm, List.singleton_append, valueUntil_ampersand isLax hq]
      rw [hr] at hv
      simp only [hr, show (reference isLax a).value = .byName (some d) from hv]
      rfl
    | case8 t r hv more hn hq ih =>
      have hl := Nat.le_trans h (hle r.rest)
      obtain ⟨a, rfl, rfl⟩ := append_split [.char '&'] ht (Nat.le_trans hl (href.length_le t))
      have hr : r = (reference isLax a).extend b := href.append_eq a b hl
      have hm : more = (valueUntil isLax quote (reference isLax a).rest).extend b := by
        exact ih (reference isLax a).rest (by rw [hr]; rfl) h
      rw [hm, List.singleton_append, valueUntil_ampersand isLax hq]
      rw [hr] at hv
      simp only [hr, show (reference isLax a).value = .byName none from hv]
      rfl
    | case9 c t hn hq ha hs ih =>
      obtain ⟨a, rfl, rfl⟩ := append_split [.char c] ht (Nat.le_trans h (hle t))
      rw [ih a rfl h, List.singleton_append, valueUntil.eq_4, if_neg hq, if_neg ha, if_pos hs]
      · rfl
      · rintro u rfl
        exact hn (u ++ b) rfl
    | case10 c t hn hq ha hs hc ih =>
      obtain ⟨a, rfl, rfl⟩ := append_split [.char c] ht (Nat.le_trans h (hle t))
      rw [ih a rfl h, List.singleton_append, valueUntil.eq_4, if_neg hq, if_neg ha, if_neg hs,
        if_pos hc]
      · rfl
      · rintro u rfl
        exact hn (u ++ b) rfl
    | case11 c t hn hq ha hs hc ih =>
      obtain ⟨a, rfl, rfl⟩ := append_split [.char c] ht (Nat.le_trans h (hle t))
      rw [ih a rfl h, List.singleton_append, valueUntil.eq_4, if_neg hq, if_neg ha, if_neg hs,
        if_neg hc]
      · rfl
      · rintro u rfl
        exact hn (u ++ b) rfl

theorem takeValue_eq (isLax : Bool) (t : Input) : takeValue isLax t =
    branch (fun
      | .char c => if c = '\x22' || c = '\x27' then some (valueUntil isLax c) else none
      | .stray => none) none false t := by
  rcases t with _ | ⟨c | _, t⟩
  · rfl
  · simp only [takeValue, branch]
    split <;> rfl
  · rfl

theorem isLocal_takeValue (isLax : Bool) : IsLocal (takeValue isLax) := by
  rw [funext (takeValue_eq isLax)]
  refine isLocal_branch fun s g hg => ?_
  cases s with
  | stray => cases hg
  | char c =>
    dsimp only at hg
    split at hg
    · cases hg
      exact isLocal_valueUntil isLax c
    · cases hg

/-- An attribute behind its name and the blanks after it. -/
def behindAttribute (isLax : Bool) (name : Text) : Input → Reading (Text × Option Text) :=
  branch (fun s => if s = .char '=' then some fun t =>
      let v := takeValue isLax (skipSpaces t)
      { v with value := (name, v.value) }
    else none) (name, none) false

theorem isLocal_behindAttribute (isLax : Bool) (name : Text) :
    IsLocal (behindAttribute isLax name) := by
  have hvalue : IsLocal fun t => takeValue isLax (skipSpaces t) :=
    takes_skipSpaces.isLocal (g := fun _ => takeValue isLax) fun _ => isLocal_takeValue isLax
  refine isLocal_branch fun s g hg => ?_
  split at hg
  · cases hg
    exact ⟨hvalue.length_le, fun a b h => by rw [hvalue.append_eq a b h]; rfl⟩
  · cases hg

theorem takeAttribute_eq (isLax : Bool) (t : Input) : takeAttribute isLax t =
    behindAttribute isLax (takeName t).1 (skipSpaces (takeName t).2) := by
  unfold takeAttribute behindAttribute
  dsimp only
  split
  · rename_i h
    rw [h]
    rfl
  · rename_i hn
    refine (branch_eq_stay ?_).symm
    intro s u h
    exact if_neg fun hs => hn u (by rw [h, hs])

theorem isLocal_takeAttribute (isLax : Bool) : IsLocal (takeAttribute isLax) := by
  rw [funext (takeAttribute_eq isLax)]
  exact takes_takeName.isLocal
    (g := fun name t => behindAttribute isLax name (skipSpaces t)) fun name =>
      takes_skipSpaces.isLocal (g := fun _ => behindAttribute isLax name) fun _ =>
        isLocal_behindAttribute isLax name

theorem tagEnd?_append {a b rest : Input} {e : Ending} (h : tagEnd? (a ++ b) = some (e, rest))
    (hl : b.length ≤ rest.length) : ∃ r, tagEnd? a = some (e, r) ∧ rest = r ++ b := by
  generalize ht : a ++ b = t at h
  unfold tagEnd? at h
  split at h
  · cases h
    obtain ⟨a, rfl, rfl⟩ := append_split [.char '>'] ht hl
    exact ⟨a, rfl, rfl⟩
  · cases h
    obtain ⟨a, rfl, rfl⟩ := append_split [.char '/', .char '>'] ht hl
    exact ⟨a, rfl, rfl⟩
  · cases h

theorem tagEnd?_eq_none_of_append {a b : Input} (h : tagEnd? (a ++ b) = none) :
    tagEnd? a = none := by
  cases ha : tagEnd? a with
  | none => rfl
  | some r =>
    unfold tagEnd? at ha
    split at ha
    · cases h
    · cases h
    · cases ha

theorem skipSpaces_of_tagEnd? {t rest : Input} {e : Ending} (h : tagEnd? t = some (e, rest)) :
    skipSpaces t = t := by
  unfold tagEnd? at h
  split at h
  · rfl
  · rfl
  · cases h

theorem startsWithSpace_append {a b : Input} (h : startsWithSpace (a ++ b) = false) :
    startsWithSpace a = false := by
  cases a with
  | nil => rfl
  | cons s a => exact h

theorem length_takeAttributes_le (isLax : Bool) (isWords : Text → Bool) (t : Input) :
    (takeAttributes isLax isWords t).rest.length ≤ t.length := by
  fun_induction takeAttributes isLax isWords t with
  | case1 t e rest h =>
    unfold tagEnd? at h
    split at h
    · cases h
      exact Nat.le_succ _
    · cases h
      exact Nat.le_succ_of_le (Nat.le_succ _)
    · cases h
  | case2 => exact Nat.le_refl _
  | case3 t _ a hn _ _ hl more ih => exact Nat.le_trans ih (Nat.le_of_lt hl)
  | case4 t _ a => exact (isLocal_takeAttribute isLax).length_le t

theorem takeAttributes_of_tagEnd? {isLax : Bool} {isWords : Text → Bool} {t rest : Input}
    {e : Ending} (h : tagEnd? t = some (e, rest)) :
    takeAttributes isLax isWords t = { value := ([], e), rest } := by
  rw [takeAttributes, h]

theorem takeAttributes_of_broken {isLax : Bool} {isWords : Text → Bool} {t : Input}
    (he : tagEnd? t = none) (hn : (takeAttribute isLax t).value.1 = []) :
    takeAttributes isLax isWords t = { value := ([], .broken), rest := t, isSound := false } := by
  rw [takeAttributes, he]
  exact dif_pos hn

theorem takeAttributes_of_attribute {isLax : Bool} {isWords : Text → Bool} {t : Input}
    (he : tagEnd? t = none) (hn : (takeAttribute isLax t).value.1 ≠ []) :
    takeAttributes isLax isWords t =
      let a := takeAttribute isLax t
      let found := foundAttribute isWords a.value
      if startsWithSpace a.rest || (tagEnd? a.rest).isSome then
        let more := takeAttributes isLax isWords (skipSpaces a.rest)
        { more with
          value := (found ++ more.value.1, more.value.2)
          isSound := a.isSound && more.isSound }
      else { value := (found, .broken), rest := a.rest, isSound := false } := by
  rw [takeAttributes, he]
  exact dif_neg hn

theorem takeName_of_nil {t : Input} (h : (takeName t).1 = []) : (takeName t).2 = t := by
  unfold takeName at h ⊢
  split
  · rename_i hs
    rw [if_pos hs] at h
    cases t with
    | nil => rfl
    | cons s t =>
      cases s with
      | stray => cases hs
      | char c => simp [takeChars, isNameChar_of_isNameStart hs] at h
  · rfl

/-- No name begins where none begins with more behind it. -/
theorem takeName_eq_nil_of_append {a b : Input} (h : (takeName (a ++ b)).1 = []) :
    (takeName a).1 = [] := by
  have he := takes_takeName.append_eq a b (by rw [takeName_of_nil h, List.length_append]; omega)
  rw [he] at h
  exact h

theorem isLocal_takeAttributes (isLax : Bool) (isWords : Text → Bool) :
    IsLocal (takeAttributes isLax isWords) where
  length_le := length_takeAttributes_le isLax isWords
  append_eq a b h := by
    have hle := length_takeAttributes_le isLax isWords
    have hone := isLocal_takeAttribute isLax
    generalize ht : a ++ b = t at h ⊢
    fun_induction takeAttributes isLax isWords t generalizing a with
    | case1 t e rest he =>
      subst ht
      obtain ⟨r, ha, rfl⟩ := tagEnd?_append he h
      rw [takeAttributes_of_tagEnd? ha]
      rfl
    | case2 t he x hn =>
      subst ht
      rw [name_takeAttribute] at hn
      rw [takeAttributes_of_broken (tagEnd?_eq_none_of_append he)
        (name_takeAttribute isLax a ▸ takeName_eq_nil_of_append hn)]
      rfl
    | case3 t he x hn found hs hlt more ih =>
      subst ht
      have hskip : b.length ≤ (skipSpaces x.rest).length := Nat.le_trans h (hle _)
      have hx : x = (takeAttribute isLax a).extend b :=
        hone.append_eq a b (Nat.le_trans hskip (length_skipSpaces_le _))
      have hrest : x.rest = (takeAttribute isLax a).rest ++ b := by rw [hx]; rfl
      have hfound : found = foundAttribute isWords (takeAttribute isLax a).value :=
        congrArg (fun r => foundAttribute isWords r.value) hx
      rw [hrest] at hskip hs
      obtain ⟨hspace, hskipped⟩ := Prod.mk.inj (takes_skipSpaces.append_eq _ b hskip)
      have hmore : more = (takeAttributes isLax isWords
          (skipSpaces (takeAttribute isLax a).rest)).extend b :=
        ih _ (by rw [hrest, hskipped]) h
      have hna : (takeAttribute isLax a).value.1 ≠ [] := by
        rw [hx] at hn
        exact hn
      -- What the attribute is followed by is read as well, so it has come in.
      have hsa : (startsWithSpace (takeAttribute isLax a).rest ||
          (tagEnd? (takeAttribute isLax a).rest).isSome) = true := by
        rw [Bool.or_eq_true, hspace] at hs
        rw [Bool.or_eq_true]
        refine hs.imp_right fun hend => ?_
        obtain ⟨⟨e, rest⟩, hend⟩ := Option.isSome_iff_exists.1 hend
        have hm : more.rest = rest := by
          show (takeAttributes isLax isWords (skipSpaces x.rest)).rest = rest
          rw [hrest, skipSpaces_of_tagEnd? hend, takeAttributes_of_tagEnd? hend]
        obtain ⟨r, hr, -⟩ := tagEnd?_append hend (hm ▸ h)
        rw [hr]
        rfl
      rw [takeAttributes_of_attribute (tagEnd?_eq_none_of_append he) hna]
      dsimp only
      rw [if_pos hsa, hmore, hx, hfound]
      rfl
    | case4 t he x hn found hs =>
      subst ht
      have hx : x = (takeAttribute isLax a).extend b := hone.append_eq a b h
      have hfound : found = foundAttribute isWords (takeAttribute isLax a).value :=
        congrArg (fun r => foundAttribute isWords r.value) hx
      have hna : (takeAttribute isLax a).value.1 ≠ [] := by
        rw [hx] at hn
        exact hn
      have hsa : ¬(startsWithSpace (takeAttribute isLax a).rest ||
          (tagEnd? (takeAttribute isLax a).rest).isSome) = true := by
        rw [hx] at hs
        simp only [Reading.extend, Bool.or_eq_true, not_or, Bool.not_eq_true,
          Option.isSome_eq_false_iff, Option.isNone_iff_eq_none] at hs ⊢
        exact ⟨startsWithSpace_append hs.1, tagEnd?_eq_none_of_append hs.2⟩
      rw [takeAttributes_of_attribute (tagEnd?_eq_none_of_append he) hna]
      dsimp only
      rw [if_neg hsa, hx, hfound]
      rfl

/-- A start tag behind its name. -/
def behindTagName (isLax : Bool) (isWords : Text → Text → Bool) (name : Text) (t : Input) :
    Reading StartTag :=
  let r := takeAttributes isLax (isWords name) (skipSpaces t)
  { value := { name, attributes := r.value.1, ending := r.value.2 }
    rest := r.rest
    isSound := r.isSound && !hasRepeat r.value.1 && r.value.2 != .broken }

theorem isLocal_behindTagName (isLax : Bool) (isWords : Text → Text → Bool) (name : Text) :
    IsLocal (behindTagName isLax isWords name) := by
  have h : IsLocal fun t => takeAttributes isLax (isWords name) (skipSpaces t) :=
    takes_skipSpaces.isLocal (g := fun _ => takeAttributes isLax (isWords name)) fun _ =>
      isLocal_takeAttributes isLax (isWords name)
  refine ⟨h.length_le, fun a b hl => ?_⟩
  unfold behindTagName
  rw [h.append_eq a b hl]
  rfl

theorem startTag?_eq (isLax : Bool) (isWords : Text → Text → Bool) (t : Input) :
    startTag? isLax isWords t =
      if (takeName t).1 = [] then none
      else some (behindTagName isLax isWords (takeName t).1 (takeName t).2) := by
  unfold startTag?
  split
  · rename_i h
    rw [h]
    rfl
  · rename_i hn h
    rw [h, if_neg hn]
    rfl

theorem startTag?_suffix {isLax : Bool} {isWords : Text → Text → Bool} {t : Input}
    {r : Reading StartTag} (h : startTag? isLax isWords t = some r) : r.rest <:+ t := by
  rw [startTag?_eq] at h
  split at h
  · cases h
  · cases h
    exact ((isLocal_behindTagName ..).suffix _).trans (takes_takeName.suffix t)

/-- A start tag whose end has come in is read as it is, whatever is behind it. -/
theorem startTag?_append {isLax : Bool} {isWords : Text → Text → Bool} {a b : Input}
    {r : Reading StartTag} (h : startTag? isLax isWords (a ++ b) = some r)
    (hl : b.length ≤ r.rest.length) :
    ∃ r', startTag? isLax isWords a = some r' ∧ r = r'.extend b := by
  have hlocal := isLocal_behindTagName isLax isWords
  rw [startTag?_eq] at h ⊢
  split at h
  · cases h
  · rename_i hn
    cases h
    have hname := takes_takeName.append_eq a b (Nat.le_trans hl ((hlocal _).length_le _))
    rw [hname] at hn hl ⊢
    rw [if_neg hn]
    exact ⟨_, rfl, (hlocal _).append_eq _ b hl⟩

theorem startTag?_eq_none_of_append {isLax : Bool} {isWords : Text → Text → Bool} {a b : Input}
    (h : startTag? isLax isWords (a ++ b) = none) : startTag? isLax isWords a = none := by
  rw [startTag?_eq] at h ⊢
  split at h
  · rename_i hn
    rw [if_pos (takeName_eq_nil_of_append hn)]
  · cases h

/-! ## Comments, instructions and sections -/

theorem length_commentEnd_le (isSound : Bool) (t : Input) :
    (commentEnd isSound t).rest.length ≤ t.length := by
  fun_induction commentEnd isSound t with
  | case1 => simp only [List.length_cons]; omega
  | case2 _ _ _ ih => exact Nat.le_succ_of_le ih
  | case3 _ _ _ _ _ _ ih => exact Nat.le_succ_of_le ih
  | case4 => exact Nat.le_refl _
  | case5 _ _ ih => exact Nat.le_succ_of_le ih
  | case6 => exact Nat.le_refl _

theorem isLocal_commentEnd (isSound : Bool) : IsLocal (commentEnd isSound) where
  length_le := length_commentEnd_le isSound
  append_eq a b h := by
    generalize ht : a ++ b = t at h ⊢
    fun_induction commentEnd isSound t generalizing a with
    | case1 isSound t =>
      obtain ⟨a, rfl, rfl⟩ := append_split [.char '-', .char '-', .char '>'] ht h
      rw [List.cons_append, List.cons_append, List.singleton_append, commentEnd.eq_1]
      rfl
    | case2 isSound t hn ih =>
      have hl := Nat.le_trans h (length_commentEnd_le false (.char '-' :: t))
      obtain ⟨a, rfl, hat⟩ := append_split [.char '-'] ht hl
      cases a with
      | nil =>
        rw [ih [] hat h, List.append_nil, commentEnd.eq_3 isSound '-' [] nofun nofun,
          if_pos (by decide), commentEnd.eq_5, commentEnd.eq_5]
      | cons s a =>
        cases hat
        rw [ih (.char '-' :: a) rfl h, List.singleton_append, commentEnd.eq_2]
        rintro u rfl
        exact hn (u ++ b) rfl
    | case3 isSound c t hn₁ hn₂ hc ih =>
      have hl := Nat.le_trans h (length_commentEnd_le isSound t)
      obtain ⟨a, rfl, rfl⟩ := append_split [.char c] ht hl
      rw [ih a rfl h, List.singleton_append, commentEnd.eq_3, if_pos hc]
      · rintro u rfl
        exact hn₁ (u ++ b) rfl
      · rintro u rfl
        exact hn₂ (u ++ b) rfl
    | case4 isSound c t hn₁ hn₂ hc =>
      cases a with
      | nil =>
        rw [← ht, commentEnd.eq_5]
        rfl
      | cons s a =>
        cases ht
        rw [commentEnd.eq_3, if_neg hc]
        · rfl
        · rintro u rfl
          exact hn₁ (u ++ b) rfl
        · rintro u rfl
          exact hn₂ (u ++ b) rfl
    | case5 isSound t ih =>
      have hl := Nat.le_trans h (length_commentEnd_le false t)
      obtain ⟨a, rfl, rfl⟩ := append_split [.stray] ht hl
      rw [ih a rfl h, List.singleton_append, commentEnd.eq_4]
    | case6 =>
      obtain ⟨rfl, rfl⟩ := List.append_eq_nil_iff.1 ht
      rw [commentEnd]
      rfl

theorem length_comment_le (isSound : Bool) (t : Input) :
    (comment isSound t).rest.length ≤ t.length := by
  fun_induction comment isSound t with
  | case1 => simp only [List.length_cons]; omega
  | case2 _ _ _ ih => exact Nat.le_succ_of_le (Nat.le_succ_of_le ih)
  | case3 _ _ ih => exact Nat.le_succ_of_le (Nat.le_succ_of_le ih)
  | case4 _ _ _ _ _ _ _ ih => exact Nat.le_succ_of_le ih
  | case5 => exact length_commentEnd_le ..
  | case6 => exact length_commentEnd_le ..

theorem isLocal_comment (isSound : Bool) : IsLocal (comment isSound) where
  length_le := length_comment_le isSound
  append_eq a b h := by
    generalize ht : a ++ b = t at h ⊢
    fun_induction comment isSound t generalizing a with
    | case1 isSound t =>
      obtain ⟨a, rfl, rfl⟩ := append_split [.char '-', .char '-', .char '>'] ht h
      rw [List.cons_append, List.cons_append, List.singleton_append, comment.eq_1]
      rfl
    | case2 isSound t hn ih =>
      have hl := Nat.le_trans h (length_comment_le false t)
      obtain ⟨a, rfl, rfl⟩ := append_split [.char '-', .char '-'] ht hl
      rw [ih a rfl h, List.cons_append, List.singleton_append, comment.eq_2]
      rintro u rfl
      exact hn (u ++ b) rfl
    | case3 isSound t ih =>
      have hl := Nat.le_trans h (length_comment_le isSound t)
      obtain ⟨a, rfl, rfl⟩ := append_split [.char '\r', .char '\n'] ht hl
      rw [ih a rfl h, List.cons_append, List.singleton_append, comment.eq_3]
    | case4 isSound c t hn₁ hn₂ hn₃ hc ih =>
      have hl := Nat.le_trans h (length_comment_le isSound t)
      obtain ⟨a, rfl, rfl⟩ := append_split [.char c] ht hl
      rw [ih a rfl h, List.singleton_append, comment.eq_4, if_pos hc]
      · rintro u rfl
        exact hn₁ (u ++ b) rfl
      · rintro u rfl
        exact hn₂ (u ++ b) rfl
      · rintro u rfl
        exact hn₃ (u ++ b) rfl
    | case5 isSound c t hn₁ hn₂ hn₃ hc =>
      rw [← ht] at h ⊢
      rw [(isLocal_commentEnd isSound).append_eq a b h]
      cases a with
      | nil => rfl
      | cons s a =>
        cases ht
        rw [comment.eq_4, if_neg hc]
        · rintro u rfl
          exact hn₁ (u ++ b) rfl
        · rintro u rfl
          exact hn₂ (u ++ b) rfl
        · rintro u rfl
          exact hn₃ (u ++ b) rfl
    | case6 isSound t hn₁ hn₂ hn₃ hn₄ =>
      subst ht
      rw [(isLocal_commentEnd isSound).append_eq a b h, comment.eq_5]
      · rintro u rfl
        exact hn₁ (u ++ b) rfl
      · rintro u rfl
        exact hn₂ (u ++ b) rfl
      · rintro u rfl
        exact hn₃ (u ++ b) rfl
      · rintro c u rfl
        exact hn₄ c (u ++ b) rfl

theorem length_instructionEnd_le (isSound : Bool) (t : Input) :
    (instructionEnd isSound t).rest.length ≤ t.length := by
  fun_induction instructionEnd isSound t with
  | case1 => exact Nat.le_succ_of_le (Nat.le_succ _)
  | case2 _ _ _ _ _ ih => exact Nat.le_succ_of_le ih
  | case3 => exact Nat.le_refl _
  | case4 _ _ ih => exact Nat.le_succ_of_le ih
  | case5 => exact Nat.le_refl _

theorem isLocal_instructionEnd (isSound : Bool) : IsLocal (instructionEnd isSound) where
  length_le := length_instructionEnd_le isSound
  append_eq a b h := by
    generalize ht : a ++ b = t at h ⊢
    fun_induction instructionEnd isSound t generalizing a with
    | case1 isSound t =>
      obtain ⟨a, rfl, rfl⟩ := append_split [.char '?', .char '>'] ht h
      rw [List.cons_append, List.singleton_append, instructionEnd.eq_1]
      rfl
    | case2 isSound c t hn hc ih =>
      have hl := Nat.le_trans h (length_instructionEnd_le isSound t)
      obtain ⟨a, rfl, rfl⟩ := append_split [.char c] ht hl
      rw [ih a rfl h, List.singleton_append, instructionEnd.eq_2, if_pos hc]
      rintro u rfl
      exact hn (u ++ b) rfl
    | case3 isSound c t hn hc =>
      cases a with
      | nil =>
        rw [← ht]
        rfl
      | cons s a =>
        cases ht
        rw [instructionEnd.eq_2, if_neg hc]
        · rfl
        · rintro u rfl
          exact hn (u ++ b) rfl
    | case4 isSound t ih =>
      have hl := Nat.le_trans h (length_instructionEnd_le false t)
      obtain ⟨a, rfl, rfl⟩ := append_split [.stray] ht hl
      rw [ih a rfl h, List.singleton_append, instructionEnd.eq_3]
    | case5 =>
      obtain ⟨rfl, rfl⟩ := List.append_eq_nil_iff.1 ht
      rfl

theorem length_sectionData_le (t : Input) : (sectionData t).rest.length ≤ t.length := by
  fun_induction sectionData t with
  | case1 => simp only [List.length_cons]; omega
  | case2 _ ih => exact Nat.le_succ_of_le (Nat.le_succ_of_le ih)
  | case3 _ _ _ _ _ ih => exact Nat.le_succ_of_le ih
  | case4 => exact Nat.le_refl _
  | case5 _ ih => exact Nat.le_succ_of_le ih
  | case6 => exact Nat.le_refl _

theorem isLocal_sectionData : IsLocal sectionData where
  length_le := length_sectionData_le
  append_eq a b h := by
    generalize ht : a ++ b = t at h ⊢
    fun_induction sectionData t generalizing a with
    | case1 t =>
      obtain ⟨a, rfl, rfl⟩ := append_split [.char ']', .char ']', .char '>'] ht h
      rw [List.cons_append, List.cons_append, List.singleton_append, sectionData.eq_1]
      rfl
    | case2 t ih =>
      have hl := Nat.le_trans h (length_sectionData_le t)
      obtain ⟨a, rfl, rfl⟩ := append_split [.char '\r', .char '\n'] ht hl
      rw [ih a rfl h, List.cons_append, List.singleton_append, sectionData.eq_2]
      rfl
    | case3 c t hn₁ hn₂ hc ih =>
      have hl := Nat.le_trans h (length_sectionData_le t)
      obtain ⟨a, rfl, rfl⟩ := append_split [.char c] ht hl
      rw [ih a rfl h, List.singleton_append, sectionData.eq_3, if_pos hc]
      · rfl
      · rintro u rfl
        exact hn₁ (u ++ b) rfl
      · rintro u rfl
        exact hn₂ (u ++ b) rfl
    | case4 c t hn₁ hn₂ hc =>
      cases a with
      | nil =>
        rw [← ht]
        rfl
      | cons s a =>
        cases ht
        rw [sectionData.eq_3, if_neg hc]
        · rfl
        · rintro u rfl
          exact hn₁ (u ++ b) rfl
        · rintro u rfl
          exact hn₂ (u ++ b) rfl
    | case5 t ih =>
      have hl := Nat.le_trans h (length_sectionData_le t)
      obtain ⟨a, rfl, rfl⟩ := append_split [.stray] ht hl
      rw [ih a rfl h, List.singleton_append, sectionData.eq_4]
      rfl
    | case6 =>
      obtain ⟨rfl, rfl⟩ := List.append_eq_nil_iff.1 ht
      rfl

end Markup
end DfaTable
