import DfaTable.Text

/-!
# DfaTable.Text.Likeness

How alike two texts are: the characters that they share in blocks of the same order, the longest
block first. `alike` finds the texts that may have been meant.
-/

namespace DfaTable.Text

/-- The number of characters with which both texts begin. -/
def sharedStart : Text → Text → Nat
  | a :: s, b :: t => if a = b then sharedStart s t + 1 else 0
  | _, _ => 0

/-- A block that two texts share: its length and where it begins in each. -/
structure Block where
  length : Nat
  start : Nat
  startInOther : Nat

/-- The longest shared block; of several, the first. -/
def longestBlock (s t : Text) : Block :=
  let starts := (List.range s.length).flatMap fun i => (List.range t.length).map fun j => (i, j)
  starts.foldl
    (fun best (i, j) =>
      let n := sharedStart (s.drop i) (t.drop j)
      if best.length < n then ⟨n, i, j⟩ else best)
    ⟨0, 0, 0⟩

/-- The number of characters in all shared blocks: those of the longest one, and those that the
parts before it and the parts behind it share. The depth is bounded. -/
def shared : Nat → Text → Text → Nat
  | 0, _, _ => 0
  | depth + 1, s, t =>
    let b := longestBlock s t
    if b.length = 0 then 0
    else
      b.length + shared depth (s.take b.start) (t.take b.startInOther) +
        shared depth (s.drop (b.start + b.length)) (t.drop (b.startInOther + b.length))

/-- A text with the part of its characters that it shares with another one, as a fraction. -/
structure Candidate where
  text : Text
  sharedTwice : Nat
  total : Nat

def candidate (t other : Text) : Candidate :=
  ⟨other, 2 * shared other.length other t, other.length + t.length⟩

/-- Whether three fifths or more are shared. -/
def Candidate.isClose (c : Candidate) : Bool := 3 * c.total ≤ 5 * c.sharedTwice

/-- The order of texts by their characters. -/
def notAfter : Text → Text → Bool
  | [], _ => true
  | _ :: _, [] => false
  | a :: s, b :: t => if a = b then notAfter s t else a.toNat < b.toNat

def Candidate.notWorse (c d : Candidate) : Bool :=
  let left := c.sharedTwice * d.total
  let right := d.sharedTwice * c.total
  if left = right then notAfter d.text c.text else right < left

/-- Of some texts the three most alike to a text, as far as they are close, in their order. -/
def alike (t : Text) (others : List Text) : List Text :=
  let close := (others.map (candidate t)).filter Candidate.isClose
  (((close.mergeSort Candidate.notWorse).take 3).map Candidate.text).mergeSort notAfter

end DfaTable.Text
