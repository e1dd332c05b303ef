import DfaTable.Markup.Reference

/-!
# DfaTable.Markup.StartTag

Start tags, as far as they can be read. An attribute without a value or with a broken one is left
out; where neither the end of the tag nor a blank follows an attribute, the tag is broken off and
what follows is read as content. Main statements: `length_takeValue_le` and
`length_takeAttribute_lt`, by which reading ends.
-/

namespace DfaTable.Markup

open Text

/-- How a start tag ends. -/
inductive Ending where
  | opened
  | single
  | broken
deriving DecidableEq, Repr

/-- Full names and values, in the order in which they are written. -/
abbrev Written := List (Text × Text)

/-- A start tag as it is written. -/
structure StartTag where
  name : Text
  attributes : Written
  ending : Ending
deriving Repr

/-- A value up to the quote that ends it. Blanks are spaces, a line end of two characters is one;
what markup cannot hold is replaced. A reference by number to nothing breaks the value off. -/
def valueUntil (isLax : Bool) (quote : Char) (t : Input) : Reading (Option Text) :=
  match t with
  | [] => { value := none, rest := [], isSound := false }
  | .stray :: t => (valueUntil isLax quote t).push replacement false
  | .char '\r' :: .char '\n' :: t => (valueUntil isLax quote t).push ' ' true
  | .char c :: t =>
    if c = quote then { value := some [], rest := t }
    else if c = '&' then
      let r := reference isLax t
      match r.value with
      | .byNumber none => { value := none, rest := r.rest, isSound := false }
      | .byNumber (some d) => (valueUntil isLax quote r.rest).push d r.isSound
      | .byName (some d) => (valueUntil isLax quote r.rest).push d r.isSound
      | .byName none =>
        let more := valueUntil isLax quote r.rest
        { more with isSound := r.isSound && more.isSound }
    else if isSpace c then (valueUntil isLax quote t).push ' ' true
    else if c.toNat < 32 then (valueUntil isLax quote t).push replacement false
    else (valueUntil isLax quote t).push c (c != '<')
termination_by t.length
decreasing_by
  · exact Nat.lt_succ_self _
  · exact Nat.lt_succ_of_le (Nat.le_succ _)
  · exact Nat.lt_succ_of_le (length_reference_le isLax t)
  · exact Nat.lt_succ_of_le (length_reference_le isLax t)
  · exact Nat.lt_succ_of_le (length_reference_le isLax t)
  · exact Nat.lt_succ_self _
  · exact Nat.lt_succ_self _
  · exact Nat.lt_succ_self _

/-- A value in quotes, if one starts here. -/
def takeValue (isLax : Bool) : Input → Reading (Option Text)
  | .char c :: t =>
    if c = '\x22' || c = '\x27' then valueUntil isLax c t
    else { value := none, rest := .char c :: t, isSound := false }
  | t => { value := none, rest := t, isSound := false }

/-- What is read of one attribute: its name, which is empty if none starts here, and its value. -/
def takeAttribute (isLax : Bool) (t : Input) : Reading (Text × Option Text) :=
  let (name, rest) := takeName t
  match skipSpaces rest with
  | .char '=' :: rest =>
    let v := takeValue isLax (skipSpaces rest)
    { v with value := (name, v.value) }
  | rest => { value := (name, none), rest, isSound := false }

/-- A value that is a list of words: one space between them and none around them. -/
def asWords (v : Text) : Text := join [' '] ((split ' ' v).filter (!·.isEmpty))

/-- The end of a start tag, if the text begins with it. -/
def tagEnd? : Input → Option (Ending × Input)
  | .char '>' :: t => some (.opened, t)
  | .char '/' :: .char '>' :: t => some (.single, t)
  | _ => none

theorem length_valueUntil_le (isLax : Bool) (quote : Char) (t : Input) :
    (valueUntil isLax quote t).rest.length ≤ t.length := by
  fun_induction valueUntil isLax quote t with
  | case1 => exact Nat.le_refl _
  | case2 t ih => exact Nat.le_succ_of_le ih
  | case3 t ih => exact Nat.le_succ_of_le (Nat.le_succ_of_le ih)
  | case4 => exact Nat.le_succ _
  | case5 t => exact Nat.le_succ_of_le (length_reference_le isLax t)
  | case6 t _ _ _ _ _ ih =>
    exact Nat.le_succ_of_le (Nat.le_trans ih (length_reference_le isLax t))
  | case7 t _ _ _ _ _ ih =>
    exact Nat.le_succ_of_le (Nat.le_trans ih (length_reference_le isLax t))
  | case8 t _ _ _ _ more ih =>
    exact Nat.le_succ_of_le (Nat.le_trans ih (length_reference_le isLax t))
  | case9 _ _ _ _ _ _ ih => exact Nat.le_succ_of_le ih
  | case10 _ _ _ _ _ _ _ ih => exact Nat.le_succ_of_le ih
  | case11 _ _ _ _ _ _ _ ih => exact Nat.le_succ_of_le ih

theorem length_takeValue_le (isLax : Bool) (t : Input) :
    (takeValue isLax t).rest.length ≤ t.length := by
  unfold takeValue
  split
  · split
    · exact Nat.le_succ_of_le (length_valueUntil_le ..)
    · exact Nat.le_refl _
  · exact Nat.le_refl _

theorem length_takeName_lt {t : Input} (h : (takeName t).1 ≠ []) :
    (takeName t).2.length < t.length := by
  cases t with
  | nil => exact absurd rfl h
  | cons s t =>
    cases s with
    | stray => exact absurd rfl h
    | char c =>
      unfold takeName at h ⊢
      split
      · rename_i hc
        have hn : isNameChar c = true := isNameChar_of_isNameStart hc
        simp only [takeChars, hn, if_true]
        exact Nat.lt_succ_of_le (length_takeChars_le ..)
      · rename_i hc
        rw [if_neg hc] at h
        exact absurd rfl h

theorem name_takeAttribute (isLax : Bool) (t : Input) :
    (takeAttribute isLax t).value.1 = (takeName t).1 := by
  unfold takeAttribute
  dsimp only
  split <;> rfl

theorem length_takeAttribute_lt {isLax : Bool} {t : Input}
    (h : (takeAttribute isLax t).value.1 ≠ []) :
    (takeAttribute isLax t).rest.length < t.length := by
  have hs := length_skipSpaces_le (takeName t).2
  have hn := length_takeName_lt (name_takeAttribute isLax t ▸ h)
  unfold takeAttribute
  dsimp only
  split
  · rename_i rest hd
    have hv := length_takeValue_le isLax (skipSpaces rest)
    have hr := length_skipSpaces_le rest
    rw [hd] at hs
    simp only [List.length_cons] at hs
    dsimp only
    omega
  · dsimp only
    omega

/-- An attribute that has a value, which may be a list of words. -/
def foundAttribute (isWords : Text → Bool) : Text × Option Text → Written
  | (name, some v) => [(name, if isWords name then asWords v else v)]
  | (_, none) => []

/-- The attributes with values up to the end of a start tag. -/
def takeAttributes (isLax : Bool) (isWords : Text → Bool) (t : Input) :
    Reading (Written × Ending) :=
  match tagEnd? t with
  | some (e, rest) => { value := ([], e), rest }
  | none =>
    let a := takeAttribute isLax t
    if hn : a.value.1 = [] then { value := ([], .broken), rest := t, isSound := false }
    else
      let found := foundAttribute isWords a.value
      if startsWithSpace a.rest || (tagEnd? a.rest).isSome then
        have : (skipSpaces a.rest).length < t.length :=
          Nat.lt_of_le_of_lt (length_skipSpaces_le _) (length_takeAttribute_lt hn)
        let more := takeAttributes isLax isWords (skipSpaces a.rest)
        { more with
          value := (found ++ more.value.1, more.value.2)
          isSound := a.isSound && more.isSound }
      else { value := (found, .broken), rest := a.rest, isSound := false }
termination_by t.length

/-- Whether some name stands twice. -/
def hasRepeat : Written → Bool
  | [] => false
  | (name, _) :: more => more.any (·.1 == name) || hasRepeat more

/-- The start tag whose name stands at the beginning of the text, if there is one; `isWords` says
which attributes of which elements are lists of words. -/
def startTag? (isLax : Bool) (isWords : Text → Text → Bool) (t : Input) :
    Option (Reading StartTag) :=
  match takeName t with
  | ([], _) => none
  | (name, rest) =>
    let r := takeAttributes isLax (isWords name) (skipSpaces rest)
    let (attributes, ending) := r.value
    some
      { value := { name, attributes, ending }
        rest := r.rest
        isSound := r.isSound && !hasRepeat attributes && ending != .broken }

end DfaTable.Markup
