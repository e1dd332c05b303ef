import DfaTable.Text

/-!
# DfaTable.Encoding.Punycode

A text in ASCII letters and digits: its ASCII characters first, and behind a hyphen the places of
all others, as numbers of variable length. Each number is the distance from the place and the
character before.
-/

namespace DfaTable.Encoding.Punycode

/-- The digit of a number below 36. -/
def digit (n : Nat) : Char := if n < 26 then Char.ofNat (97 + n) else Char.ofNat (22 + n)

/-- The number from which on a digit at a position is followed by another one. -/
def threshold (position bias : Nat) : Nat := max 1 (min 26 (36 * (position + 1) - bias))

theorem one_le_threshold (position bias : Nat) : 1 ≤ threshold position bias := Nat.le_max_left ..

/-- The digits of a number, the lowest one first. -/
def digits (bias position n : Nat) : Text :=
  let t := threshold position bias
  if n < t then [digit n]
  else digit (t + (n - t) % (36 - t)) :: digits bias (position + 1) ((n - t) / (36 - t))
termination_by n
decreasing_by
  have := one_le_threshold position bias
  have := Nat.div_le_self (n - threshold position bias) (36 - threshold position bias)
  omega

/-- Brings a distance below 456; every division counts 36. -/
def settled (divisions delta : Nat) : Nat :=
  if 455 < delta then settled (divisions + 36) (delta / 35)
  else divisions + 36 * delta / (delta + 38)
termination_by delta
decreasing_by omega

/-- The bias behind a distance; `count` is the number of characters up to there. -/
def adapted (delta count : Nat) (isFirst : Bool) : Nat :=
  let halved := if isFirst then delta / 700 else delta / 2
  settled 0 (halved + halved / count)

/-- The digits of distances behind `count` characters. -/
def numbers (bias count : Nat) (isFirst : Bool) : List Nat → Text
  | [] => []
  | delta :: rest =>
    digits bias 0 delta ++
      numbers (adapted delta (count + 1) isFirst) (count + 1) false rest

/-- The places of a character among those that are not greater, counted from `place` on. -/
def places (c : Char) (place : Nat) : Text → List Nat
  | [] => []
  | d :: rest =>
    if d = c then place :: places c (place + 1) rest
    else places c (if d.toNat < c.toNat then place + 1 else place) rest

/-- The distances between places, from the one behind `place` on. -/
def gaps (place : Nat) : List Nat → List Nat
  | [] => []
  | p :: rest => (p - place) :: gaps (p + 1) rest

/-- The distances of characters in ascending order, behind a number and a place: from one character
to the next, every number in between counts for all places that there were. -/
def distances (t : Text) (number place : Nat) : List Char → List Nat
  | [] => []
  | c :: rest =>
    let jump := (t.countP (·.toNat < c.toNat) + 1) * (c.toNat - number)
    match places c 0 t with
    | [] => distances t number place rest
    | p :: more =>
      (jump + p - place) :: gaps (p + 1) more ++
        distances t c.toNat ((more.getLast?.getD p) + 1) rest

/-- A list of characters in ascending order, with one more that may be in it already. -/
def insertChar (c : Char) : List Char → List Char
  | [] => [c]
  | d :: rest =>
    if c.toNat < d.toNat then c :: d :: rest
    else if c = d then d :: rest
    else d :: insertChar c rest

/-- The ASCII text that stands for a text. -/
def encode (t : Text) : Text :=
  let base := t.filter (·.toNat < 128)
  let others := (t.filter (128 ≤ ·.toNat)).foldr insertChar []
  (if base.isEmpty then [] else base ++ ['-']) ++
    numbers 72 base.length true (distances t 0x80 0 others)

end DfaTable.Encoding.Punycode
