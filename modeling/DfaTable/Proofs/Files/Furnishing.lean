import DfaTable.Proofs.Files.Way
import Mathlib.Data.List.Induction

/-!
# DfaTable.Proofs.Files.Furnishing

A tree with directories at some places, which are gone through in order: where nothing is, a
directory is put, and the first file on the way is the end of it.

* `extends_furnish`: what is new in such a tree.
* `furnish_append`, `furnish_append_of_hasFile`: places that are gone through after others.
* `furnish_of_not_turnsBack`: where a file is on the way of some names, nothing is new, unless they
  lead upwards behind a place where nothing is.
-/

namespace DfaTable.Files.Tree

variable {t u v : Tree} {p q : Place} {ps qs : List Place} {names : List Text}
  {new : Place → Entry → Prop}

instance (t : Tree) (p : Place) : Decidable (t.HasFile p) :=
  match h : t.find? p with
  | some (.file bytes) => isTrue ⟨bytes, h⟩
  | some .directory => isFalse fun ⟨_, hb⟩ => by rw [h] at hb; cases hb
  | none => isFalse fun ⟨_, hb⟩ => by rw [h] at hb; cases hb

theorem find?_put_of_none {q : Place} (h : t.find? q = none) (e : Entry) (p : Place) :
    (t.put q e).find? p = if p = q then some e else t.find? p :=
  find?_put t (ne_nil_of_find? (by rw [h]; simp)) e p

/-- The second tree has what the first has and `new`, and nothing else. -/
def Extends (new : Place → Entry → Prop) (t u : Tree) : Prop :=
  ∀ q e, u.find? q = some e ↔ t.find? q = some e ∨ t.find? q = none ∧ new q e

theorem Extends.congr {new' : Place → Entry → Prop} (h : Extends new t u)
    (hn : ∀ q e, t.find? q = none → (new q e ↔ new' q e)) : Extends new' t u := by
  intro q e
  rw [h q e]
  exact or_congr_right (and_congr_right fun hq => hn q e hq)

theorem Extends.put {e : Entry} (h : Extends new t u) (hq : u.find? q = none) :
    Extends (fun p x => new p x ∨ p = q ∧ x = e) t (u.put q e) := by
  have ht : t.find? q = none := by
    cases he : t.find? q with
    | none => rfl
    | some y => rw [(h q y).2 (.inl he)] at hq; cases hq
  have hnew : ∀ x, ¬ new q x := fun x hx => by
    rw [(h q x).2 (.inr ⟨ht, hx⟩)] at hq
    cases hq
  intro p x
  rw [find?_put_of_none hq]
  by_cases hp : p = q
  · subst hp
    simp [ht, hnew, eq_comm]
  · simp [hp, h p x]

theorem hasFile_put_directory (h : t.find? p = none) :
    (t.put p .directory).HasFile q ↔ t.HasFile q := by
  unfold HasFile
  rw [find?_put_of_none h]
  split
  · subst_vars
    simp [h]
  · rfl

/-- Directories put where nothing is, up to the first file. -/
def furnish (t : Tree) : List Place → Tree
  | [] => t
  | q :: rest =>
    match t.find? q with
    | none => (t.put q .directory).furnish rest
    | some .directory => t.furnish rest
    | some (.file _) => t

@[simp] theorem furnish_nil (t : Tree) : t.furnish [] = t := rfl

theorem furnish_cons_none (h : t.find? q = none) (qs : List Place) :
    t.furnish (q :: qs) = (t.put q .directory).furnish qs := by
  rw [furnish, h]

theorem furnish_cons_directory (h : t.find? q = some .directory) (qs : List Place) :
    t.furnish (q :: qs) = t.furnish qs := by
  rw [furnish, h]

theorem furnish_cons_file (h : t.HasFile q) (qs : List Place) : t.furnish (q :: qs) = t := by
  obtain ⟨bytes, hb⟩ := h
  rw [furnish, hb]

/-- New are directories at the places before the first file, and no others. -/
theorem extends_furnish (t : Tree) (qs : List Place) :
    Extends (fun q e => e = .directory ∧ q ∈ qs.takeWhile fun d => ¬ t.HasFile d) t
      (t.furnish qs) := by
  intro p e
  induction qs generalizing t with
  | nil => simp
  | cons q qs ih =>
    by_cases hf : t.HasFile q
    · rw [furnish_cons_file hf, List.takeWhile_cons_of_neg (by simpa using hf)]
      simp
    · rw [List.takeWhile_cons_of_pos (by simpa using hf)]
      simp only [List.mem_cons]
      cases hq : t.find? q with
      | none =>
        have hsame : (qs.takeWhile fun d => ¬ (t.put q .directory).HasFile d) =
            qs.takeWhile fun d => ¬ t.HasFile d := by
          simp only [hasFile_put_directory hq]
        rw [furnish_cons_none hq, ih, hsame, find?_put_of_none hq]
        split
        · subst_vars
          simp [hq, eq_comm]
        · simp [*]
      | some x =>
        cases x with
        | file bytes => exact absurd ⟨bytes, hq⟩ hf
        | directory =>
          rw [furnish_cons_directory hq, ih]
          by_cases hp : p = q
          · simp [hp, hq]
          · simp [hp]

theorem furnish_of_directories (h : ∀ q ∈ qs, t.find? q = some .directory) :
    t.furnish qs = t := by
  induction qs with
  | nil => rfl
  | cons q qs ih =>
    rw [furnish_cons_directory (h q (List.mem_cons_self ..)),
      ih fun d hd => h d (List.mem_cons_of_mem _ hd)]

/-- Without a file among the first places, one goes on with the others. -/
theorem furnish_append (h : ∀ q ∈ ps, ¬ t.HasFile q) (qs : List Place) :
    t.furnish (ps ++ qs) = (t.furnish ps).furnish qs := by
  induction ps generalizing t with
  | nil => rfl
  | cons p ps ih =>
    have hp := h p (List.mem_cons_self ..)
    have hps := fun q hq => h q (List.mem_cons_of_mem _ hq)
    rw [List.cons_append]
    cases hf : t.find? p with
    | none =>
      rw [furnish_cons_none hf, furnish_cons_none hf,
        ih fun q hq hqf => hps q hq ((hasFile_put_directory hf).1 hqf)]
    | some e =>
      cases e with
      | file bytes => exact absurd ⟨bytes, hf⟩ hp
      | directory => rw [furnish_cons_directory hf, furnish_cons_directory hf, ih hps]

/-- With one, the others are not come to. -/
theorem furnish_append_of_hasFile (h : ∃ q ∈ ps, t.HasFile q) (qs : List Place) :
    t.furnish (ps ++ qs) = t.furnish ps := by
  induction ps generalizing t with
  | nil => simp at h
  | cons p ps ih =>
    rw [List.cons_append]
    by_cases hp : t.HasFile p
    · rw [furnish_cons_file hp, furnish_cons_file hp]
    · have hps : ∃ q ∈ ps, t.HasFile q := by
        obtain ⟨q, hq, hf⟩ := h
        rcases List.mem_cons.1 hq with rfl | hq
        · exact absurd hf hp
        · exact ⟨q, hq, hf⟩
      cases hf : t.find? p with
      | none =>
        rw [furnish_cons_none hf, furnish_cons_none hf, ih]
        obtain ⟨q, hq, hqf⟩ := hps
        exact ⟨q, hq, (hasFile_put_directory hf).2 hqf⟩
      | some e =>
        cases e with
        | file bytes => exact absurd ⟨bytes, hf⟩ hp
        | directory => rw [furnish_cons_directory hf, furnish_cons_directory hf, ih hps]

/-- Where a walk comes to a file, there are directories before it. -/
theorem furnish_of_walk (h : t.walk p names = .error .notDirectory) (qs : List Place) :
    t.furnish (p.way names ++ qs) = t := by
  induction names generalizing p with
  | nil => cases h
  | cons n names ih =>
    rw [Place.way_cons, List.cons_append]
    cases hp : t.find? p with
    | none => simp [walk, hp] at h
    | some e =>
      cases e with
      | file bytes => exact furnish_cons_file ⟨bytes, hp⟩ _
      | directory =>
        rw [furnish_cons_directory hp]
        by_cases hn : n = Path.up ∨ isTooLong n = false
        · rw [walk_cons_step hp hn] at h
          exact ih h
        · rw [not_or, Bool.not_eq_false] at hn
          simp [walk, hp, hn] at h

/-! ## Trees in which nothing stands apart -/

/-- Everything is in a directory. -/
def IsClosed (t : Tree) : Prop := ∀ q e, t.find? q = some e → t.find? q.dropLast = some .directory

/-- Where nothing is, there is nothing below. -/
theorem IsClosed.find?_append (h : t.IsClosed) (hp : t.find? p = none) (s : Place) :
    t.find? (p ++ s) = none := by
  induction s using List.reverseRecOn with
  | nil => rwa [List.append_nil]
  | append_singleton s n ih =>
    cases hs : t.find? (p ++ (s ++ [n])) with
    | none => rfl
    | some e =>
      have habove := h _ e hs
      rw [← List.append_assoc, List.dropLast_concat, ih] at habove
      cases habove

/-- Names that do not lead upwards lead further and further in. -/
theorem isPrefix_of_mem_way (h : Path.up ∉ names) (hq : q ∈ p.way names ++ [p.goal names]) :
    p <+: q := by
  induction names generalizing p with
  | nil => exact List.mem_singleton.1 hq ▸ List.prefix_refl p
  | cons n names ih =>
    rw [List.mem_cons, not_or] at h
    rcases List.mem_cons.1 hq with rfl | hq
    · exact List.prefix_refl q
    · have hstep : p.step n = p ++ [n] := if_neg (Ne.symm h.1)
      exact (hstep ▸ List.prefix_append p [n]).trans (ih h.2 hq)

/-- Some of the names leads upwards, and nothing is at a place that is come to before it. -/
def TurnsBack (t : Tree) (p : Place) (names : List Text) : Prop :=
  ∃ before after, names = before ++ Path.up :: after ∧
    ∃ q ∈ p.way (before ++ [Path.up]), t.find? q = none

theorem TurnsBack.cons {n : Text} (h : t.TurnsBack (p.step n) names) :
    t.TurnsBack p (n :: names) := by
  obtain ⟨before, after, rfl, q, hq, hn⟩ := h
  exact ⟨n :: before, after, rfl, q, List.mem_cons_of_mem _ hq, hn⟩

theorem turnsBack_of_mem {n : Text} (hp : t.find? p = none) (h : Path.up ∈ n :: names) :
    t.TurnsBack p (n :: names) := by
  obtain ⟨before, after, hnames⟩ := List.append_of_mem h
  refine ⟨before, after, hnames, p, ?_, hp⟩
  cases before with
  | nil => exact List.mem_cons_self ..
  | cons m before => exact List.mem_cons_self ..

/-- What is missing is not followed by a file, unless the names turn back. -/
theorem furnish_of_not_turnsBack (hc : t.IsClosed) (ht : ¬ t.TurnsBack p names)
    (hf : ∃ q ∈ p.way names ++ [p.goal names], t.HasFile q) :
    t.furnish (p.way names ++ [p.goal names]) = t := by
  induction names generalizing p with
  | nil =>
    obtain ⟨q, hq, hf⟩ := hf
    exact furnish_cons_file (List.mem_singleton.1 hq ▸ hf) []
  | cons n names ih =>
    rw [Place.way_cons, List.cons_append] at hf ⊢
    cases hp : t.find? p with
    | none =>
      -- Then nothing is at any place behind this one.
      obtain ⟨q, hq, bytes, hb⟩ := hf
      have hup : Path.up ∉ n :: names := fun h => ht (turnsBack_of_mem hp h)
      obtain ⟨s, rfl⟩ := isPrefix_of_mem_way hup hq
      rw [hc.find?_append hp s] at hb
      cases hb
    | some e =>
      cases e with
      | file bytes => exact furnish_cons_file ⟨bytes, hp⟩ _
      | directory =>
        rw [furnish_cons_directory hp]
        refine ih (fun h => ht h.cons) ?_
        obtain ⟨q, hq, bytes, hb⟩ := hf
        rcases List.mem_cons.1 hq with rfl | hq
        · rw [hp] at hb
          cases hb
        · exact ⟨q, hq, bytes, hb⟩

end DfaTable.Files.Tree
