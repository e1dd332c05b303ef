import DfaTable.Proofs.Markup.Opening

/-!
# DfaTable.Proofs.Markup.Shortening

Whatever is read of what stands before the first tag, an end of it is left.

* `Declaration.shortens_read`, `Doctype.shortens_opening`, `Doctype.subset_suffix`.
-/

namespace DfaTable
namespace Markup

open Text

variable {α β : Type}

namespace Scan

/-- A scan that leaves an end of its input. -/
def Shortens (f : Scan α) : Prop := ∀ p, (f.run p).2.rest <:+ p.rest

section

variable {f : Scan α} {g : α → Scan β} {c : Prop} [Decidable c]

theorem Shortens.bind (hf : Shortens f) (hg : ∀ x, Shortens (g x)) : Shortens (f >>= g) :=
  fun p => (hg _ _).trans (hf p)

theorem Shortens.ite {f g : Scan α} (hf : Shortens f) (hg : Shortens g) :
    Shortens (if c then f else g) := by
  split
  · exact hf
  · exact hg

theorem shortens_pure (x : α) : Shortens (pure x) := fun _ => List.suffix_rfl

theorem shortens_fault : Shortens fault := fun _ => List.suffix_rfl

theorem shortens_require (isMet : Bool) : Shortens (require isMet) :=
  (shortens_pure ()).ite shortens_fault

theorem shortens_get {k : Place → Scan α} (h : ∀ p, Shortens (k p)) : Shortens (get >>= k) :=
  fun p => h p p

theorem shortens_taking {take : Input → α × Input} (h : ∀ t, (take t).2 <:+ t) :
    Shortens (taking take) := fun p => h p.rest

theorem shortens_reading {read : Input → Reading α} (h : ∀ t, (read t).rest <:+ t) :
    Shortens (reading read) := fun p => h p.rest

end

theorem shortens_blanks : Shortens blanks := shortens_taking fun _ => List.dropWhile_suffix _

theorem shortens_sees (m : String) : Shortens (sees m) := fun _ => List.suffix_rfl

theorem shortens_mark (m : String) : Shortens (mark m) := by
  refine shortens_taking fun t => ?_
  split
  · exact ⟨_, (after?_eq_some_iff.1 ‹_›).symm⟩
  · exact List.suffix_rfl

theorem shortens_skip : Shortens skip := fun p => List.tail_suffix p.rest

theorem shortens_takeChars (p : Char → Bool) : Shortens (taking (takeChars p)) :=
  shortens_taking (takes_takeChars p).suffix

theorem shortens_name : Shortens name := shortens_taking takes_takeName.suffix

theorem shortens_plainName : Shortens plainName := by
  refine shortens_taking fun t => ?_
  unfold takePlainName
  split
  · exact (takes_takeChars _).suffix t
  · exact List.suffix_rfl

theorem shortens_quote? : Shortens quote? := by
  refine shortens_taking fun t => ?_
  split
  · split
    · exact List.suffix_cons ..
    · exact List.suffix_rfl
  · exact List.suffix_rfl

theorem shortens_literal? (isAllowed : Char → Bool) : Shortens (literal? isAllowed) := by
  refine shortens_quote?.bind fun x => ?_
  cases x with
  | none => exact shortens_fault.bind fun _ => shortens_pure none
  | some quote =>
    have ht : Shortens (upTo isAllowed quote) :=
      (shortens_reading (isLocal_literalText isAllowed quote).suffix).bind fun _ =>
        (shortens_mark _).bind fun _ => (shortens_require _).bind fun _ => shortens_pure _
    exact ht.bind fun _ => shortens_pure _

end Scan

open Scan

/-! ## The declaration -/

namespace Declaration

theorem shortens_opening? : Shortens opening? := by
  refine shortens_blanks.bind fun _ => (shortens_mark _).bind fun _ => .ite ?_ ?_
  · refine shortens_blanks.bind fun _ => shortens_quote?.bind fun x => ?_
    cases x with
    | none => exact shortens_fault.bind fun _ => shortens_pure none
    | some q => exact shortens_pure (some q)
  · exact shortens_fault.bind fun _ => shortens_pure none

theorem shortens_closing (quote : Char) : Shortens (closing quote) :=
  (shortens_mark _).bind fun _ => (shortens_require _).bind fun _ => shortens_pure _

theorem shortens_number? : Shortens number? := by
  rintro ⟨t, isSound⟩
  match t with
  | [] => exact List.suffix_rfl
  | .stray :: _ => exact List.suffix_rfl
  | [.char a] =>
    have hrun : number?.run ⟨[.char a], isSound⟩ =
        (if a.isDigit then modify ({ · with rest := [] }) >>= fun _ => pure none
          else pure none : Scan (Option Text)).run ⟨[.char a], isSound⟩ := rfl
    rw [hrun]
    split
    · exact List.suffix_cons ..
    · exact List.suffix_rfl
  | .char a :: s :: t =>
    by_cases hs : s = .char '.'
    · subst hs
      rw [number?_point]
      split
      · exact ((takes_takeChars _).suffix t).trans ⟨[_, _], rfl⟩
      · exact List.suffix_rfl
    · rw [number?_other a hs]
      split
      · exact List.suffix_cons ..
      · exact List.suffix_rfl

theorem shortens_version : Shortens version := by
  refine (shortens_mark _).bind fun _ => .ite ?_ shortens_fault
  refine shortens_opening?.bind fun x => ?_
  cases x with
  | none => exact shortens_fault
  | some q =>
    exact shortens_number?.bind fun _ => (shortens_closing q).bind fun _ => shortens_require _

theorem shortens_encoding : Shortens encoding := by
  refine shortens_blanks.bind fun _ => (shortens_mark _).bind fun _ => .ite ?_ (shortens_pure _)
  refine shortens_opening?.bind fun x => ?_
  cases x with
  | none => exact shortens_pure _
  | some q =>
    have hc : ∀ b, Shortens (closing q >>= fun x => pure (x && b)) := fun b =>
      (shortens_closing q).bind fun _ => shortens_pure _
    exact shortens_get fun _ => (shortens_require _).bind fun _ =>
      .ite ((shortens_takeChars _).bind fun _ => hc _) (hc _)

theorem shortens_standalone : Shortens standalone := by
  refine shortens_blanks.bind fun _ => (shortens_mark _).bind fun _ => .ite ?_ (shortens_pure _)
  refine shortens_opening?.bind fun x => ?_
  cases x with
  | none => exact shortens_pure _
  | some q =>
    have hc : ∀ b : Bool, Shortens (closing q >>= fun _ => pure b) := fun b =>
      (shortens_closing q).bind fun _ => shortens_pure _
    exact (shortens_mark _).bind fun _ => .ite
      ((shortens_mark _).bind fun _ => (shortens_require _).bind fun _ => hc _) (hc _)

theorem afterTag_suffix (t : Input) : afterTag t <:+ t := by
  fun_induction afterTag t with
  | case1 => exact List.suffix_rfl
  | case2 => exact List.suffix_cons _ _
  | case3 _ _ _ ih => exact ih.trans (List.suffix_cons _ _)

theorem shortens_conclusion : Shortens conclusion := by
  have he : Shortens ending :=
    shortens_blanks.bind fun _ => (shortens_mark _).bind fun _ => .ite (shortens_pure _) <|
      shortens_fault.bind fun _ p => afterTag_suffix p.rest
  exact shortens_standalone.bind fun _ => he.bind fun _ => shortens_pure _

theorem shortens_read : Shortens read := by
  refine shortens_blanks.bind fun _ => shortens_version.bind fun _ =>
    (shortens_mark _).bind fun _ => .ite (shortens_pure _) ?_
  refine shortens_get fun _ => (shortens_require _).bind fun _ => shortens_encoding.bind fun _ =>
    .ite ?_ shortens_conclusion
  exact (shortens_mark _).bind fun _ => .ite (shortens_pure _) <|
    shortens_get fun _ => (shortens_require _).bind fun _ => shortens_conclusion

end Declaration

/-! ## The document type -/

namespace Doctype

theorem shortens_external (isNotation : Bool) : Shortens (external isNotation) := by
  have hs : Shortens systemExternal :=
    shortens_blanks.bind fun _ => (shortens_require _).bind fun _ =>
      (shortens_literal? _).bind fun _ => shortens_pure _
  have hp : Shortens (publicExternal isNotation) := by
    refine shortens_blanks.bind fun _ => (shortens_require _).bind fun _ =>
      (shortens_literal? _).bind fun _ => shortens_blanks.bind fun _ => shortens_get fun _ => ?_
    exact .ite (shortens_pure _) <| (shortens_require _).bind fun _ =>
      (shortens_literal? _).bind fun _ => shortens_pure _
  exact (shortens_mark _).bind fun _ => .ite hs <|
    (shortens_mark _).bind fun _ => .ite hp (shortens_pure _)

theorem shortens_occurrence : Shortens occurrence := by
  refine shortens_taking fun t => ?_
  split
  · dsimp only
    split
    · exact List.suffix_cons ..
    · exact List.suffix_rfl
  · exact List.suffix_rfl

theorem shortens_opening (r : Rules) : Shortens (opening r) :=
  shortens_blanks.bind fun _ => (shortens_require _).bind fun _ => shortens_name.bind fun _ =>
    (shortens_require _).bind fun _ => shortens_blanks.bind fun _ =>
      (shortens_external false).bind fun _ => shortens_blanks.bind fun _ =>
        (shortens_sees _).bind fun _ => .ite
          ((shortens_mark _).bind fun _ => (shortens_require _).bind fun _ => shortens_pure _)
          (shortens_pure _)

/-- The three parts of a group, which hold each other. -/
theorem shortens_group (fuel : Nat) :
    Shortens (particle fuel) ∧ Shortens (group fuel) ∧
      ∀ sign, Shortens (groupEnd fuel sign) := by
  induction fuel with
  | zero => exact ⟨shortens_pure _, shortens_pure _, fun _ => shortens_pure _⟩
  | succ fuel ih =>
    obtain ⟨hp, hg, he⟩ := ih
    refine ⟨?_, ?_, fun sign => ?_⟩
    · exact (shortens_mark _).bind fun _ => .ite hg <| shortens_name.bind fun _ =>
        (shortens_require _).bind fun _ => shortens_occurrence.bind fun _ => shortens_pure _
    · exact shortens_blanks.bind fun _ => hp.bind fun _ =>
        .ite (shortens_blanks.bind fun _ => he none) (shortens_pure _)
    · refine (shortens_mark _).bind fun _ => .ite
        (shortens_occurrence.bind fun _ => shortens_pure _) <| shortens_get fun p => ?_
      split
      · rename_i c t _
        refine .ite ?_ (shortens_fault.bind fun _ => shortens_pure _)
        exact shortens_skip.bind fun _ => shortens_blanks.bind fun _ => hp.bind fun _ =>
          .ite (shortens_blanks.bind fun _ => he (some c)) (shortens_pure _)
      · exact shortens_fault.bind fun _ => shortens_pure _

theorem shortens_mixedNames (fuel : Nat) : Shortens (mixedNames fuel) := by
  induction fuel with
  | zero => exact shortens_pure _
  | succ fuel ih =>
    refine (shortens_mark _).bind fun _ => .ite ?_ ?_
    · exact shortens_blanks.bind fun _ => shortens_name.bind fun _ =>
        (shortens_require _).bind fun _ => .ite (shortens_pure _) <|
          shortens_blanks.bind fun _ => ih
    · exact (shortens_mark _).bind fun _ => (shortens_require _).bind fun _ => shortens_pure _

theorem shortens_contentModel (fuel : Nat) : Shortens (contentModel fuel) := by
  have hm : Shortens (mixed fuel) :=
    shortens_blanks.bind fun _ => (shortens_mark _).bind fun _ => .ite
      ((shortens_mark _).bind fun _ => shortens_pure _) (shortens_mixedNames fuel)
  refine (shortens_mark _).bind fun _ => .ite (shortens_pure _) <|
    (shortens_mark _).bind fun _ => .ite (shortens_pure _) <|
      (shortens_mark _).bind fun _ => .ite ?_ (shortens_fault.bind fun _ => shortens_pure _)
  exact shortens_blanks.bind fun _ => (shortens_mark _).bind fun _ =>
    .ite hm (shortens_group fuel).2.1

theorem shortens_declarationEnd : Shortens declarationEnd :=
  shortens_blanks.bind fun _ => (shortens_mark _).bind fun _ => shortens_require _

theorem shortens_elementRule (fuel : Nat) : Shortens (elementRule fuel) := by
  refine (shortens_mark _).bind fun _ => .ite (shortens_pure _) <|
    shortens_blanks.bind fun _ => (shortens_require _).bind fun _ => .ite (shortens_pure _) <|
      shortens_name.bind fun _ => (shortens_require _).bind fun _ => .ite (shortens_pure _) ?_
  exact shortens_blanks.bind fun _ => (shortens_require _).bind fun _ =>
    (shortens_contentModel fuel).bind fun _ => .ite shortens_declarationEnd (shortens_pure _)

theorem shortens_notationRule : Shortens notationRule := by
  refine (shortens_mark _).bind fun _ => .ite (shortens_pure _) <|
    shortens_blanks.bind fun _ => (shortens_require _).bind fun _ => .ite (shortens_pure _) <|
      shortens_plainName.bind fun _ => (shortens_require _).bind fun _ =>
        .ite (shortens_pure _) ?_
  exact shortens_blanks.bind fun _ => (shortens_require _).bind fun _ =>
    .ite (shortens_pure _) <| (shortens_external true).bind fun _ => shortens_blanks.bind fun _ =>
      (shortens_mark _).bind fun _ => shortens_require _

theorem shortens_wordList {word : Scan Text} (hw : Shortens word) (fuel : Nat) :
    Shortens (wordList word fuel) := by
  induction fuel with
  | zero => exact shortens_pure _
  | succ fuel ih =>
    exact shortens_blanks.bind fun _ => hw.bind fun _ => (shortens_require _).bind fun _ =>
      .ite (shortens_pure _) <| shortens_blanks.bind fun _ => (shortens_mark _).bind fun _ =>
        .ite ih <| (shortens_mark _).bind fun _ => (shortens_require _).bind fun _ =>
          shortens_pure _

theorem shortens_typeName? (names : List String) : Shortens (typeName? names) := by
  induction names with
  | nil => exact shortens_pure _
  | cons n names ih => exact (shortens_mark n).bind fun _ => .ite (shortens_pure _) ih

theorem shortens_attributeType (fuel : Nat) : Shortens (attributeType fuel) := by
  refine (shortens_typeName? _).bind fun x => ?_
  cases x with
  | some n => exact shortens_pure _
  | none =>
    have hl : ∀ isNotation : Bool, Shortens (
        wordList (if isNotation then name else taking (takeChars isNameChar)) fuel >>= fun isList =>
          if isList then pure (some true) else pure none) := fun isNotation =>
      (shortens_wordList (.ite shortens_name (shortens_takeChars _)) fuel).bind fun _ =>
        .ite (shortens_pure _) (shortens_pure _)
    have hrest : ∀ isNotation isSpaced : Bool, Shortens (do
        require isSpaced
        if !isSpaced then return none
        let isOpened ← mark "("
        require isOpened
        if !isOpened then return none
        if ← wordList (if isNotation then name else taking (takeChars isNameChar)) fuel then
          return some true else return none) := fun isNotation isSpaced =>
      (shortens_require _).bind fun _ => .ite (shortens_pure _) <| (shortens_mark _).bind fun _ =>
        (shortens_require _).bind fun _ => .ite (shortens_pure _) (hl isNotation)
    refine (shortens_mark _).bind fun isNotation => ?_
    exact .ite (shortens_blanks.bind fun isSpaced => hrest isNotation isSpaced)
      (shortens_pure _ |>.bind fun isSpaced => hrest isNotation isSpaced)

theorem shortens_usualValue (isLax : Bool) : Shortens (usualValue isLax) := by
  have hr : Shortens (reading (takeValue isLax)) :=
    shortens_reading (isLocal_takeValue isLax).suffix
  refine (shortens_mark _).bind fun _ => .ite (shortens_pure _) <|
    (shortens_mark _).bind fun _ => .ite (shortens_pure _) <| (shortens_mark _).bind fun _ => ?_
  exact .ite (shortens_blanks.bind fun _ => (shortens_require _).bind fun _ => hr) hr

theorem shortens_attributeRules (isLax : Bool) (element : Text) (fuel : Nat) :
    Shortens (attributeRules isLax element fuel) := by
  induction fuel with
  | zero => exact shortens_pure _
  | succ fuel ih =>
    refine (shortens_mark _).bind fun _ => .ite (shortens_pure _) <|
      shortens_name.bind fun _ => (shortens_require _).bind fun _ => .ite (shortens_pure _) <|
        shortens_blanks.bind fun _ => (shortens_require _).bind fun _ => .ite (shortens_pure _) ?_
    refine (shortens_attributeType fuel).bind fun x => ?_
    cases x with
    | none => exact shortens_pure _
    | some isWords =>
      exact shortens_blanks.bind fun _ => (shortens_require _).bind fun _ =>
        .ite (shortens_pure _) <| (shortens_usualValue isLax).bind fun _ =>
          shortens_blanks.bind fun _ => (shortens_sees _).bind fun _ =>
            (shortens_require _).bind fun _ => .ite (shortens_pure _) <|
              ih.bind fun _ => shortens_pure _

theorem shortens_attributeList (isLax : Bool) (fuel : Nat) :
    Shortens (attributeList isLax fuel) :=
  (shortens_mark _).bind fun _ => .ite (shortens_pure _) <|
    shortens_blanks.bind fun _ => (shortens_require _).bind fun _ => shortens_name.bind fun _ =>
      (shortens_require _).bind fun _ => .ite (shortens_pure _) <|
        shortens_blanks.bind fun _ => shortens_attributeRules isLax _ fuel

/-- An entity behind the sign of a parameter. -/
def namedEntity (isParameter : Bool) : Scan Bool := do
  let n ← plainName
  require (!n.isEmpty)
  if n.isEmpty then return false
  require (← blanks)
  if !isParameter then return true
  match ← quote? with
  | some quote =>
    let inside ← taking fun t =>
      (t.dropWhile (· != .char quote), t.dropWhile (· != .char quote))
    require (!inside.isEmpty)
    return !inside.isEmpty
  | none =>
    let e ← external false
    require e.isNamed
    let isEntity := e.address.any fun a => !a.contains '#'
    require (isEntity || e.address.isNone)
    if !isEntity then declarationEnd
    return isEntity

theorem shortens_namedEntity (isParameter : Bool) : Shortens (namedEntity isParameter) := by
  refine shortens_plainName.bind fun _ => (shortens_require _).bind fun _ =>
    .ite (shortens_pure _) <| shortens_blanks.bind fun _ => (shortens_require _).bind fun _ =>
      .ite (shortens_pure _) <| shortens_quote?.bind fun x => ?_
  cases x with
  | some quote =>
    exact (shortens_taking fun _ => List.dropWhile_suffix _).bind fun _ =>
      (shortens_require _).bind fun _ => shortens_pure _
  | none =>
    exact (shortens_external false).bind fun _ => (shortens_require _).bind fun _ =>
      (shortens_require _).bind fun _ => .ite
        (shortens_declarationEnd.bind fun _ => shortens_pure _) (shortens_pure _)

theorem shortens_entityRule : Shortens entityRule := by
  refine (shortens_mark _).bind fun _ => .ite (shortens_pure _) <| shortens_blanks.bind fun _ =>
    (shortens_require _).bind fun _ => (shortens_mark _).bind fun isParameter => ?_
  have hn := shortens_namedEntity isParameter
  exact .ite (shortens_blanks.bind fun _ => (shortens_require _).bind fun _ => hn) hn

theorem shortens_parameter : Shortens parameter :=
  shortens_plainName.bind fun _ => (shortens_require _).bind fun _ => .ite (shortens_pure _) <|
    (shortens_mark _).bind fun _ => (shortens_require _).bind fun _ => shortens_pure _

theorem shortens_rule (isAlone : Bool) (fuel : Nat) (r : Rules) :
    Shortens (rule isAlone fuel r) := by
  refine (shortens_mark _).bind fun _ => .ite
    ((shortens_reading instruction_suffix).bind fun _ => shortens_pure _) <|
      (shortens_mark _).bind fun _ => .ite
        ((shortens_reading (isLocal_comment true).suffix).bind fun _ => shortens_pure _) <|
          (shortens_sees _).bind fun _ => .ite
            ((shortens_mark _).bind fun _ => shortens_entityRule.bind fun _ => shortens_pure _) <|
              (shortens_sees _).bind fun _ => .ite
                ((shortens_mark _).bind fun _ => (shortens_attributeList _ fuel).bind fun _ =>
                  shortens_pure _) ?_
  refine (shortens_sees _).bind fun _ => (shortens_sees _).bind fun _ => (shortens_sees _).bind
    fun _ => (shortens_mark _).bind fun _ => (shortens_require _).bind fun _ =>
      (shortens_sees _).bind fun _ => .ite ?_ ?_
  · exact (shortens_elementRule fuel).bind fun _ => shortens_pure _
  · exact (shortens_sees _).bind fun _ => .ite
      (shortens_notationRule.bind fun _ => shortens_pure _) (shortens_pure _)

theorem shortens_rules (isAlone : Bool) (fuel : Nat) (r : Rules) :
    Shortens (rules isAlone fuel r) := by
  induction fuel generalizing r with
  | zero => exact shortens_pure _
  | succ fuel ih =>
    refine (shortens_sees _).bind fun _ => shortens_get fun _ => .ite (shortens_pure _) ?_
    refine (shortens_sees _).bind fun _ => (shortens_sees _).bind fun _ => .ite ?_ ?_
    · exact (shortens_rule isAlone fuel r).bind fun r => shortens_blanks.bind fun _ => ih r
    · refine (shortens_mark _).bind fun _ => .ite ?_ (shortens_fault.bind fun _ => shortens_pure _)
      exact shortens_parameter.bind fun _ => (shortens_require _).bind fun _ =>
        shortens_blanks.bind fun _ => ih _

/-- Of a subset at least its opening bracket is passed over. -/
theorem subset_suffix (isAlone : Bool) (r : Rules) (t : Input) (isSound : Bool) :
    ((subset isAlone r).run ⟨.char '[' :: t, isSound⟩).2.rest <:+ t := by
  have hs : Shortens (do
      let _ ← blanks
      let r ← rules isAlone (← get).rest.length r
      if ← mark "]" then
        let _ ← blanks
      if (← get).isSound && !(← sees ">") then fault else skip
      return r) := by
    refine shortens_blanks.bind fun _ => shortens_get fun p =>
      (shortens_rules isAlone _ r).bind fun r => (shortens_mark _).bind fun _ => ?_
    have hend : Shortens (do
        if (← get).isSound && !(← sees ">") then fault else skip
        return r) :=
      shortens_get fun _ => (shortens_sees _).bind fun _ => .ite
        (shortens_fault.bind fun _ => shortens_pure _) (shortens_skip.bind fun _ => shortens_pure _)
    exact .ite (shortens_blanks.bind fun _ => hend) hend
  exact hs ⟨t, isSound⟩

end Doctype

end Markup
end DfaTable
