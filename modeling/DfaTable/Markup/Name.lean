import DfaTable.Markup.Symbol

/-!
# DfaTable.Markup.Name

Names: the characters that they are made of, and their parts around a colon. Main statement:
`length_takeName_le`.
-/

namespace DfaTable.Markup

open Text

/-- The ranges of code points outside ASCII with which a name may start. -/
def nameStartRanges : List (Nat × Nat) :=
  [(0xC0, 0xD6), (0xD8, 0xF6), (0xF8, 0x2FF), (0x370, 0x37D), (0x37F, 0x1FFF), (0x200C, 0x200D),
   (0x2070, 0x218F), (0x2C00, 0x2FEF), (0x3001, 0xD7FF), (0xF900, 0xFDCF), (0xFDF0, 0xFFFD),
   (0x10000, 0xEFFFF)]

/-- The ranges of code points outside ASCII that a name may hold behind its start. -/
def nameInnerRanges : List (Nat × Nat) := [(0xB7, 0xB7), (0x300, 0x36F), (0x203F, 0x2040)]

def inRanges (ranges : List (Nat × Nat)) (c : Char) : Bool :=
  ranges.any fun (first, last) => first ≤ c.toNat && c.toNat ≤ last

def isNameStart (c : Char) : Bool :=
  if c.toNat < 128 then c.isAlpha || c == '_' || c == ':' else inRanges nameStartRanges c

def isNameChar (c : Char) : Bool :=
  if c.toNat < 128 then c.isAlphanum || c == '_' || c == ':' || c == '-' || c == '.'
  else inRanges nameStartRanges c || inRanges nameInnerRanges c

/-- The characters with a property at the beginning, and the rest. -/
def takeChars (p : Char → Bool) : Input → Text × Input
  | [] => ([], [])
  | .stray :: t => ([], .stray :: t)
  | .char c :: t =>
    if p c then
      let (cs, rest) := takeChars p t
      (c :: cs, rest)
    else ([], .char c :: t)

/-- A name and the rest; the name is empty if none starts here. -/
def takeName (t : Input) : Text × Input :=
  if t.head?.any (·.holds isNameStart) then takeChars isNameChar t else ([], t)

/-- A name without a colon and the rest. -/
def takePlainName (t : Input) : Text × Input :=
  if t.head?.any (·.holds fun c => isNameStart c && c != ':') then
    takeChars (fun c => isNameChar c && c != ':') t
  else ([], t)

/-- The parts of a name around its colon, if it has only one and both can be names. -/
def splitName (name : Text) : Option Text × Text :=
  match cutAt ':' name with
  | some (space, c :: rest) =>
    if !space.isEmpty && isNameStart c && !(c :: rest).contains ':' then (some space, c :: rest)
    else (none, name)
  | _ => (none, name)

theorem isNameChar_of_isNameStart {c : Char} (h : isNameStart c = true) : isNameChar c = true := by
  unfold isNameStart at h
  unfold isNameChar
  split at h
  · rename_i hc
    simp only [hc, if_true, Char.isAlphanum, Bool.or_eq_true] at h ⊢
    rcases h with (h | h) | h <;> simp [h]
  · rename_i hc
    simp [hc, h]

theorem length_takeChars_le (p : Char → Bool) (t : Input) :
    (takeChars p t).2.length ≤ t.length := by
  induction t with
  | nil => exact Nat.le_refl _
  | cons s t ih =>
    cases s with
    | stray => exact Nat.le_refl _
    | char c =>
      simp only [takeChars]
      split
      · exact Nat.le_succ_of_le ih
      · exact Nat.le_refl _

theorem length_takeName_le (t : Input) : (takeName t).2.length ≤ t.length := by
  unfold takeName
  split
  · exact length_takeChars_le ..
  · exact Nat.le_refl _

end DfaTable.Markup
