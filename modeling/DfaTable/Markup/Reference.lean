import DfaTable.Markup.Name

/-!
# DfaTable.Markup.Reference

References to characters, by number or by one of five names. What refers to no character stands
for nothing: `a&b` is `a`, since the name behind the ampersand belongs to the reference. Main
statement: `length_reference_le`.
-/

namespace DfaTable.Markup

open Text

/-- What a reference stands for, if it stands for anything. -/
inductive Referent where
  | byNumber (c : Option Char)
  | byName (c : Option Char)
deriving DecidableEq, Repr

/-- The characters that have names of their own. -/
def namedCharacters : List (Text × Char) :=
  [("lt".toList, '<'), ("gt".toList, '>'), ("amp".toList, '&'), ("quot".toList, '\x22'),
   ("apos".toList, '\x27')]

/-- The value of a digit in a base up to 16. -/
def digitIn (base : Nat) (c : Char) : Option Nat :=
  let n :=
    if c.isDigit then c.toNat - 48
    else if 'a' ≤ c && c ≤ 'f' then c.toNat - 87
    else if 'A' ≤ c && c ≤ 'F' then c.toNat - 55
    else 16
  if n < base then some n else none

/-- The character with a number, and whether markup may hold it. Zero stands for none, and a number
behind the last character for the replacement. -/
def characterOf (n : Nat) : Option Char × Bool :=
  let c := Char.ofNat n
  if n = 0 then (none, false)
  else if c.toNat = n then (some c, isChar c)
  else (some replacement, false)

/-- The number that digits write up to a semicolon, and what follows it. Any other character breaks
the number off, and so does a letter as every eleventh digit. -/
def takeNumber (base : Nat) (index n : Nat) : Input → Option Nat × Input
  | [] => (none, [])
  | .stray :: t => (none, .stray :: t)
  | .char ';' :: t => (some n, t)
  | .char c :: t =>
    match digitIn base c with
    | none => (none, .char c :: t)
    | some d =>
      if 10 ≤ d && index % 11 == 10 then (none, .char c :: t)
      else takeNumber base (index + 1) (n * base + d) t

/-- The reference by a number, of which the text holds the digits. -/
def numberReference (base : Nat) (t : Input) : Reading Referent :=
  let (n, rest) := takeNumber base 0 0 t
  let (c, isSound) := characterOf (n.getD 0)
  { value := .byNumber c, rest, isSound }

/-- The reference by a name. An unknown one is a fault unless it may be declared elsewhere. -/
def nameReference (isLax : Bool) (t : Input) : Reading Referent :=
  match takeName t with
  | ([], rest) => { value := .byName none, rest, isSound := false }
  | (name, .char ';' :: rest) =>
    let c := namedCharacters.lookup name
    { value := .byName c, rest, isSound := c.isSome || isLax }
  | (_, rest) => { value := .byName none, rest, isSound := false }

/-- The reference that begins with an ampersand, which the text follows. -/
def reference (isLax : Bool) : Input → Reading Referent
  | .char '#' :: .char 'x' :: t => numberReference 16 t
  | .char '#' :: t => numberReference 10 t
  | t => nameReference isLax t

theorem length_takeNumber_le (base index n : Nat) (t : Input) :
    (takeNumber base index n t).2.length ≤ t.length := by
  fun_induction takeNumber base index n t with
  | case1 => exact Nat.le_refl _
  | case2 => exact Nat.le_refl _
  | case3 => exact Nat.le_succ _
  | case4 => exact Nat.le_refl _
  | case5 => exact Nat.le_refl _
  | case6 _ _ _ _ _ _ _ _ ih => exact Nat.le_succ_of_le ih

theorem length_numberReference_le (base : Nat) (t : Input) :
    (numberReference base t).rest.length ≤ t.length := length_takeNumber_le ..

theorem length_nameReference_le (isLax : Bool) (t : Input) :
    (nameReference isLax t).rest.length ≤ t.length := by
  have h := length_takeName_le t
  unfold nameReference
  split
  · rename_i hn
    rw [hn] at h
    exact h
  · rename_i hn
    rw [hn] at h
    exact Nat.le_trans (Nat.le_succ _) h
  · rename_i hn
    rw [hn] at h
    exact h

theorem length_reference_le (isLax : Bool) (t : Input) :
    (reference isLax t).rest.length ≤ t.length := by
  unfold reference
  split
  · exact Nat.le_trans (length_numberReference_le ..) (by simp; omega)
  · exact Nat.le_trans (length_numberReference_le ..) (by simp)
  · exact length_nameReference_le ..

end DfaTable.Markup
