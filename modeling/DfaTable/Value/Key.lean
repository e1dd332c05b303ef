import DfaTable.Value

/-!
# DfaTable.Value.Key

The keys of mappings and the members of sets. Numbers and truth values are the same key if they
are equal as numbers, and moments if they are the same in time. Main statement: `keys_put`, by
which a key that is there already stays as it is, in its place.
-/

namespace DfaTable

/-- A key. The word for no number is equal to itself, but other values that are no numbers differ
from each other: each of these has an owner. -/
structure Key where
  value : Value
  owner : Option Nat := none

namespace Key

/-- A number for a comparison: an integer, or a real number that is none. -/
inductive Magnitude where
  | whole (n : Int)
  | broken (x : Float)

def magnitude? : Value → Option Magnitude
  | .bool b => some (.whole (if b then 1 else 0))
  | .int n => some (.whole n)
  | .real x =>
    match Real.integer? x with
    | some n => some (.whole n)
    | none => some (.broken x)
  | _ => none

def isNan : Value → Bool
  | .real x => Real.kind x == .notANumber
  | _ => false

/-- Whether two keys are the same. -/
def isSame (a b : Key) : Bool :=
  match a.value, b.value with
  | .null, .null => true
  | .text s, .text t => s == t
  | .torn s, .torn t => s == t
  | .bytes s, .bytes t => s == t
  | .day d, .day e => d == e
  | .moment m, .moment n => m.isSame n
  | v, w =>
    if isNan v && isNan w then a.owner == b.owner
    else
      match magnitude? v, magnitude? w with
      | some (.whole m), some (.whole n) => m == n
      | some (.broken x), some (.broken y) => x == y
      | _, _ => false

/-- Gives a key a value: a key that is there already stays as it is, in its place. -/
def put {α : Type} (k : Key) (v : α) : List (Key × α) → List (Key × α)
  | [] => [(k, v)]
  | (k', v') :: rest => if k.isSame k' then (k', v) :: rest else (k', v') :: put k v rest

theorem keys_put {α : Type} (k : Key) (v : α) (entries : List (Key × α)) :
    (put k v entries).map Prod.fst =
      if entries.any (fun e => k.isSame e.1) then entries.map Prod.fst
      else entries.map Prod.fst ++ [k] := by
  induction entries with
  | nil => rfl
  | cons e rest ih =>
    by_cases h : k.isSame e.1 = true
    · simp [put, h]
    · simp only [Bool.not_eq_true] at h
      simp only [put, h, Bool.false_eq_true, ↓reduceIte, List.map_cons, ih, List.any_cons,
        Bool.false_or]
      split <;> simp

end Key
end DfaTable
