import DfaTable.Value.Key

/-!
# DfaTable.Value.Arrangement

The order in which a set shows its numbers. Each number takes a place in a table: the first free
one of those that its remainder leads to. The numbers are shown by place, whatever the order they
were given in. Members that are no numbers keep the order they were given in. Main statement:
`arrange_perm`.
-/

namespace DfaTable.Key

/-- The prime number whose remainders lead to places; two to the power of 61 is one more. -/
def modulus : Nat := Nat.pow 2 61 - 1

/-- The remainder of a number, with its sign; the one of a fraction counts the halves backwards. An
infinite number has a remainder of its own, and minus two stands for minus one. -/
def Magnitude.remainder (m : Magnitude) : Int :=
  let r : Int :=
    match m with
    | .whole n => n.tmod modulus
    | .broken x =>
      let size : Nat :=
        match Real.kind x with
        | .finite mantissa e => mantissa * Nat.pow 2 ((61 - e.natAbs % 61) % 61) % modulus
        | .infinite => 314159
        | .notANumber => 0
      if Real.isNegative x then -size else size
  if r = -1 then -2 else r

/-- How many places behind the one that is tried first are tried with it, if the table has them. -/
def neighbours : Nat := 9

/-- The first free place of a table, from place `i` on; `rest` is what was not used of the remainder
yet. -/
def freePlace (size : Nat) (taken : List Nat) : Nat → Nat → Nat → Nat
  | 0, _, i => i
  | fuel + 1, rest, i =>
    let tries := if i + neighbours < size then neighbours + 1 else 1
    match (List.range tries).find? fun d => !taken.contains (i + d) with
    | some d => i + d
    | none =>
      let rest := rest / 32
      freePlace size taken fuel rest ((i * 5 + 1 + rest) % size)

/-- The least power of two that is at least 8 and more than `n`. -/
def tableSize (n : Nat) : Nat := max 8 (Nat.pow 2 (n.log2 + 1))

/-- The places of numbers that are put into a table one after the other. -/
def places (size : Nat) (taken : List Nat) : List Magnitude → List Nat
  | [] => []
  | m :: rest =>
    let word := (m.remainder % (Nat.pow 2 64 : Nat)).toNat
    let place := freePlace size taken (size + 64) word (word % size)
    place :: places size (place :: taken) rest

/-- The numbers of keys, if all of them are numbers. -/
def magnitudes? (keys : List Key) : Option (List Magnitude) :=
  keys.mapM fun k => if isNan k.value then none else magnitude? k.value

/-- The keys of a set in the order in which they are shown. -/
def arrange (keys : List Key) : List Key :=
  match magnitudes? keys with
  | none => keys
  | some ms =>
    let size := if keys.length < 5 then 8 else tableSize (2 * keys.length)
    let placed := (places size [] ms).zip keys
    (placed.mergeSort fun a b => a.1 ≤ b.1).map Prod.snd

theorem length_places (size : Nat) (taken : List Nat) (ms : List Magnitude) :
    (places size taken ms).length = ms.length := by
  induction ms generalizing taken with
  | nil => rfl
  | cons m rest ih => simp [places, ih]

theorem length_magnitudes? {keys : List Key} {ms : List Magnitude}
    (h : magnitudes? keys = some ms) : ms.length = keys.length := by
  unfold magnitudes? at h
  induction keys generalizing ms with
  | nil => simp at h; simp [← h]
  | cons k rest ih =>
    simp only [List.mapM_cons, bind, Option.bind_eq_some_iff, pure, Option.some.injEq] at h
    obtain ⟨m, _, more, hm, rfl⟩ := h
    simp [ih hm]

/-- No member is lost and none is added. -/
theorem arrange_perm (keys : List Key) : (arrange keys).Perm keys := by
  unfold arrange
  split
  · exact List.Perm.refl _
  · rename_i ms hm
    have hl := (length_places (if keys.length < 5 then 8 else tableSize (2 * keys.length)) []
      ms).trans (length_magnitudes? hm)
    refine ((List.mergeSort_perm _ _).map Prod.snd).trans ?_
    rw [List.map_snd_zip (Nat.le_of_eq hl.symm)]

end DfaTable.Key
