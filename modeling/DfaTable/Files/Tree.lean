import DfaTable.Encoding.Utf8
import DfaTable.Files.Trouble
import DfaTable.Path

/-!
# DfaTable.Files.Tree

A tree of files and directories, each at its place. Main statements: `find?_put` and
`find?_erase` say what is found after a change, and `erase_put` that a file which is made and
taken away again leaves no trace.
-/

namespace DfaTable.Files

/-- The names on the way from the root of a tree. -/
abbrev Place := List Text

inductive Entry where
  | file (bytes : List UInt8)
  | directory
deriving DecidableEq, Repr

/-- What is in a tree, in the order in which it was made; the root is always there. -/
structure Tree where
  entries : List (Place × Entry) := []
deriving DecidableEq, Repr

namespace Tree

def find? (t : Tree) (p : Place) : Option Entry :=
  if p = [] then some .directory else t.entries.lookup p

/-- Entries with a new one in the place of an old one, or at the end. -/
def putEntry (p : Place) (e : Entry) : List (Place × Entry) → List (Place × Entry)
  | [] => [(p, e)]
  | (q, f) :: rest => if p = q then (p, e) :: rest else (q, f) :: putEntry p e rest

def put (t : Tree) (p : Place) (e : Entry) : Tree := ⟨putEntry p e t.entries⟩

def erase (t : Tree) (p : Place) : Tree := ⟨t.entries.filter (·.1 != p)⟩

/-- The greatest number of bytes in a name. -/
def nameLimit : Nat := 255

def isTooLong (n : Text) : Bool := nameLimit < (Encoding.Utf8.encode n).length

/-- The place that names lead to. All directories on the way have to be there; what is at the
place itself does not matter. -/
def walk (t : Tree) (p : Place) : List Text → Except Refusal Place
  | [] => .ok p
  | n :: rest =>
    match t.find? p with
    | none => .error .missing
    | some (.file _) => .error .notDirectory
    | some .directory =>
      if n = Path.up then t.walk p.dropLast rest
      else if isTooLong n then .error .nameTooLong
      else t.walk (p ++ [n]) rest

theorem lookup_putEntry_self (p : Place) (e : Entry) (es : List (Place × Entry)) :
    (putEntry p e es).lookup p = some e := by
  induction es with
  | nil => simp [putEntry]
  | cons head rest ih =>
    obtain ⟨q, f⟩ := head
    by_cases h : p = q
    · simp [putEntry, h]
    · have hb : (p == q) = false := by simp [h]
      simp [putEntry, h, List.lookup_cons, hb, ih]

theorem lookup_putEntry_ne {p q : Place} (h : q ≠ p) (e : Entry) (es : List (Place × Entry)) :
    (putEntry p e es).lookup q = es.lookup q := by
  induction es with
  | nil =>
    have hb : (q == p) = false := by simp [h]
    simp [putEntry, List.lookup_cons, hb]
  | cons head rest ih =>
    obtain ⟨r, f⟩ := head
    by_cases hp : p = r
    · subst hp
      have hb : (q == p) = false := by simp [h]
      simp [putEntry, List.lookup_cons, hb]
    · cases hq : q == r <;> simp [putEntry, hp, List.lookup_cons, hq, ih]

/-- What is found after an entry was put. -/
theorem find?_put (t : Tree) {p : Place} (hp : p ≠ []) (e : Entry) (q : Place) :
    (t.put p e).find? q = if q = p then some e else t.find? q := by
  unfold find? put
  by_cases h : q = p
  · subst h
    simp [hp, lookup_putEntry_self]
  · simp [h, lookup_putEntry_ne h]

theorem lookup_filter_ne (p q : Place) (es : List (Place × Entry)) :
    (es.filter (·.1 != p)).lookup q = if q = p then none else es.lookup q := by
  induction es with
  | nil => simp
  | cons head rest ih =>
    obtain ⟨r, f⟩ := head
    by_cases hr : r = p
    · subst hr
      by_cases hq : q = r
      · simp [hq] at ih ⊢
        exact ih
      · have hb : (q == r) = false := by simp [hq]
        simp [List.lookup_cons, hb, ih]
    · have hk : (r != p) = true := by simp [hr]
      by_cases hq : q = r
      · subst hq
        simp [hr]
      · have hb : (q == r) = false := by simp [hq]
        simp [List.filter, hk, List.lookup_cons, hb, ih]

/-- What is found after an entry was taken away. -/
theorem find?_erase (t : Tree) {p : Place} (hp : p ≠ []) (q : Place) :
    (t.erase p).find? q = if q = p then none else t.find? q := by
  unfold find? erase
  by_cases h : q = []
  · subst h
    simp [Ne.symm hp]
  · simp [h, lookup_filter_ne]

/-- What is made and taken away again leaves no trace. -/
theorem erase_put {t : Tree} {p : Place} (h : ∀ e ∈ t.entries, e.1 ≠ p) (e : Entry) :
    (t.put p e).erase p = t := by
  obtain ⟨es⟩ := t
  simp only [put, erase, Tree.mk.injEq]
  induction es with
  | nil => simp [putEntry]
  | cons head rest ih =>
    obtain ⟨q, f⟩ := head
    have hq : q ≠ p := h _ (List.mem_cons_self ..)
    have hr := ih fun d hd => h d (List.mem_cons_of_mem _ hd)
    simp [putEntry, Ne.symm hq, hq, hr]

end Tree
end DfaTable.Files
