import DfaTable.Files.Access
import DfaTable.Proofs.Workspace.Ends

/-!
# DfaTable.Proofs.Files.Way

Where paths lead. Nothing in a tree leads elsewhere, so the places on the way of a path are known
from its names alone; the tree decides how far a walk gets.

* `Reach`: what a walk comes to, with what it has found on its way. `reach_walk` and `reach_locate`
  say that walks and paths come to that and to nothing else.
* `walk_congr`, `walk_mono`: a walk is not disturbed where its way stays, or all directories do.
-/

namespace DfaTable
namespace Files

namespace Place

/-- Where a name leads to from a place. -/
def step (p : Place) (n : Text) : Place := if n = Path.up then p.dropLast else p ++ [n]

/-- Where names lead to from a place. -/
def goal (p : Place) (names : List Text) : Place := names.foldl step p

/-- The places at which names ask for a directory. -/
def way (p : Place) : List Text → List Place
  | [] => []
  | n :: rest => p :: way (p.step n) rest

variable {p : Place}

@[simp] theorem goal_nil (p : Place) : p.goal [] = p := rfl

@[simp] theorem goal_cons (p : Place) (n : Text) (names : List Text) :
    p.goal (n :: names) = (p.step n).goal names := rfl

@[simp] theorem way_nil (p : Place) : p.way [] = [] := rfl

@[simp] theorem way_cons (p : Place) (n : Text) (names : List Text) :
    p.way (n :: names) = p :: (p.step n).way names := rfl

theorem way_concat (p : Place) (names : List Text) (n : Text) :
    p.way (names ++ [n]) = p.way names ++ [p.goal names] := by
  induction names generalizing p with
  | nil => rfl
  | cons m names ih => simp [ih]

theorem goal_append (p : Place) (xs ys : List Text) : p.goal (xs ++ ys) = (p.goal xs).goal ys :=
  List.foldl_append

/-- Names that lead nowhere upwards are added to the place as they are. -/
theorem goal_of_notMem (p : Place) {names : List Text} (h : Path.up ∉ names) :
    p.goal names = p ++ names := by
  induction names generalizing p with
  | nil => simp
  | cons n names ih =>
    rw [List.mem_cons, not_or] at h
    rw [goal_cons, ih _ h.2, step, if_neg (Ne.symm h.1), List.append_assoc, List.singleton_append]

theorem mem_step {n m : Text} (h : m ∈ p.step n) : m ∈ p ∨ m = n ∧ n ≠ Path.up := by
  rw [step] at h
  split at h
  · exact .inl (List.dropLast_subset _ h)
  · rcases List.mem_append.1 h with h | h
    · exact .inl h
    · exact .inr ⟨List.mem_singleton.1 h, by assumption⟩

/-- Only names that were given are part of a goal, and none that leads upwards. -/
theorem mem_goal {names : List Text} {m : Text} (h : m ∈ p.goal names) :
    m ∈ p ∨ m ∈ names ∧ m ≠ Path.up := by
  induction names generalizing p with
  | nil => exact .inl h
  | cons n names ih =>
    rcases ih h with h | ⟨h, hu⟩
    · rcases mem_step h with h | ⟨rfl, hu⟩
      · exact .inl h
      · exact .inr ⟨List.mem_cons_self .., hu⟩
    · exact .inr ⟨List.mem_cons_of_mem _ h, hu⟩

end Place

namespace Tree

variable {t u : Tree} {p q : Place} {names : List Text}

/-- Only a directory is at the root. -/
theorem ne_nil_of_find? (h : t.find? q ≠ some .directory) : q ≠ [] := by
  rintro rfl
  exact h rfl

/-- There is a file at a place. -/
def HasFile (t : Tree) (p : Place) : Prop := ∃ bytes, t.find? p = some (.file bytes)

/-- What going through names comes to, and what was found on the way. -/
inductive Reach (t : Tree) (p : Place) (names : List Text) (isLong : Prop) :
    Except Refusal Place → Prop where
  | arrives : (∀ q ∈ p.way names, t.find? q = some .directory) →
      Reach t p names isLong (.ok (p.goal names))
  | missing {q : Place} : q ∈ p.way names → t.find? q = none →
      Reach t p names isLong (.error .missing)
  | notDirectory {q : Place} : q ∈ p.way names → t.HasFile q →
      Reach t p names isLong (.error .notDirectory)
  | nameTooLong : isLong → Reach t p names isLong (.error .nameTooLong)

theorem Reach.cons {n : Text} {isLong : Prop} {r : Except Refusal Place}
    (hp : t.find? p = some .directory) (h : Reach t (p.step n) names isLong r) :
    Reach t p (n :: names) isLong r := by
  cases h with
  | arrives hd => exact .arrives (by simpa [hp] using hd)
  | missing hq hn => exact .missing (List.mem_cons_of_mem _ hq) hn
  | notDirectory hq hf => exact .notDirectory (List.mem_cons_of_mem _ hq) hf
  | nameTooLong hl => exact .nameTooLong hl

theorem Reach.imp {isLong isLong' : Prop} {r : Except Refusal Place} (hi : isLong → isLong')
    (h : Reach t p names isLong r) : Reach t p names isLong' r := by
  cases h with
  | arrives hd => exact .arrives hd
  | missing hq hn => exact .missing hq hn
  | notDirectory hq hf => exact .notDirectory hq hf
  | nameTooLong hl => exact .nameTooLong (hi hl)

theorem walk_cons_step {n : Text} (hp : t.find? p = some .directory)
    (hn : n = Path.up ∨ isTooLong n = false) :
    t.walk p (n :: names) = t.walk (p.step n) names := by
  by_cases hu : n = Path.up
  · subst hu
    simp [walk, hp, Place.step]
  · have hl : isTooLong n = false := hn.resolve_left hu
    simp [walk, hp, Place.step, hu, hl]

theorem reach_walk (t : Tree) (p : Place) (names : List Text) :
    Reach t p names (∃ n ∈ names, isTooLong n = true) (t.walk p names) := by
  induction names generalizing p with
  | nil => exact .arrives (by simp)
  | cons n names ih =>
    cases hp : t.find? p with
    | none =>
      rw [walk, hp]
      exact .missing (List.mem_cons_self ..) hp
    | some e =>
      cases e with
      | file bytes =>
        rw [walk, hp]
        exact .notDirectory (List.mem_cons_self ..) ⟨bytes, hp⟩
      | directory =>
        by_cases hn : n = Path.up ∨ isTooLong n = false
        · rw [walk_cons_step hp hn]
          refine .cons hp ((ih (p.step n)).imp ?_)
          rintro ⟨m, hm, hl⟩
          exact ⟨m, List.mem_cons_of_mem _ hm, hl⟩
        · rw [not_or, Bool.not_eq_false] at hn
          have hw : t.walk p (n :: names) = .error .nameTooLong := by simp [walk, hp, hn]
          rw [hw]
          exact .nameTooLong ⟨n, List.mem_cons_self .., hn.2⟩

/-- A walk through names goes on from where the first of them lead. -/
theorem walk_append (t : Tree) (p : Place) (xs ys : List Text) :
    t.walk p (xs ++ ys) = (t.walk p xs).bind fun q => t.walk q ys := by
  induction xs generalizing p with
  | nil => rfl
  | cons n xs ih =>
    rw [List.cons_append, walk, walk]
    split
    · rfl
    · rfl
    · split
      · exact ih _
      · split
        · rfl
        · exact ih _

/-- A walk looks only at the places on its way. -/
theorem walk_congr (h : ∀ d ∈ p.way names, u.find? d = t.find? d) :
    u.walk p names = t.walk p names := by
  induction names generalizing p with
  | nil => rfl
  | cons n names ih =>
    rw [Place.way_cons] at h
    have hp := h p (List.mem_cons_self ..)
    have hmore := ih fun d hd => h d (List.mem_cons_of_mem _ hd)
    rw [walk, walk, hp]
    split <;> try rfl
    rw [Place.step] at hmore
    split
    · rwa [if_pos (by assumption)] at hmore
    · rw [if_neg (by assumption)] at hmore
      rw [hmore]

/-- A walk goes where it went before if all directories have stayed. -/
theorem walk_mono (hd : ∀ d, t.find? d = some .directory → u.find? d = some .directory)
    (h : t.walk p names = .ok q) : u.walk p names = .ok q := by
  induction names generalizing p with
  | nil => exact h
  | cons n names ih =>
    cases hp : t.find? p with
    | none => simp [walk, hp] at h
    | some e =>
      cases e with
      | file bytes => simp [walk, hp] at h
      | directory =>
        by_cases hn : n = Path.up ∨ isTooLong n = false
        · rw [walk_cons_step hp hn] at h
          rw [walk_cons_step (hd p hp) hn]
          exact ih h
        · rw [not_or, Bool.not_eq_false] at hn
          simp [walk, hp, hn] at h

end Tree
end Files

open Files

namespace Workspace

variable {w : Workspace} {p : Path}

/-- Where a path starts. -/
def start (w : Workspace) (p : Path) : Place := if p.root.isEmpty then w.home else []

/-- Where a path leads to. -/
def goal (w : Workspace) (p : Path) : Place := (w.start p).goal p.names

@[simp] theorem goal_on (w : Workspace) (t : Tree) (p : Path) : (w.on t).goal p = w.goal p := rfl

/-- The path keeps to the limits of the file system: its names and those above it are of at most
255 bytes and have no null character, and its text is shorter than 4096 bytes. -/
structure Fits (w : Workspace) (p : Path) : Prop where
  names : ∀ n ∈ w.start p ++ p.names, Tree.isTooLong n = false ∧ '\x00' ∉ n
  length : (Encoding.Utf8.encode p.write).length < Path.limit

/-- What is at a path. -/
def found? (w : Workspace) (p : Path) : Option Entry :=
  if p.hasNull then none
  else
    match w.locate p with
    | .ok place => w.files.find? place
    | .error _ => none

theorem Fits.hasNull (h : w.Fits p) : p.hasNull = false := by
  rw [Path.hasNull, List.any_eq_false]
  intro n hn
  rw [List.contains_iff_mem]
  exact (h.names n (List.mem_append_right _ hn)).2

theorem reach_locate (w : Workspace) (p : Path) :
    Tree.Reach w.files (w.start p) p.names (¬ w.Fits p) (w.locate p) := by
  rw [locate]
  split
  · exact .nameTooLong fun h => absurd h.length (by omega)
  · refine (Tree.reach_walk _ _ _).imp ?_
    rintro ⟨n, hn, hl⟩ h
    have := (h.names n (List.mem_append_right _ hn)).1
    rw [hl] at this
    cases this

theorem locate_congr {t : Tree}
    (h : ∀ d ∈ (w.start p).way p.names, t.find? d = w.files.find? d) :
    (w.on t).locate p = w.locate p := by
  rw [locate, locate]
  split
  · rfl
  · exact Tree.walk_congr h

/-- A path goes where it went before if all directories have stayed. -/
theorem locate_mono {t : Tree} {q : Place}
    (hd : ∀ d, w.files.find? d = some .directory → t.find? d = some .directory)
    (h : w.locate p = .ok q) : (w.on t).locate p = .ok q := by
  rw [locate] at h ⊢
  split
  · rw [if_pos (by assumption)] at h
    cases h
  · rw [if_neg (by assumption)] at h
    exact Tree.walk_mono hd h

end Workspace
end DfaTable
