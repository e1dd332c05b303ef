import DfaTable.Proofs.Files.Asking
import DfaTable.Proofs.Files.Furnishing
import Mathlib.Data.List.Infix

/-!
# DfaTable.Proofs.Files.Growth

What making directories and files adds to a tree. Nothing that is there is changed, and what is new
stands on the way of the path.

* `moves_haveDirectories`, `moves_touch`: this holds however the work ends.
* `found?_of_haveDirectories`: where it comes to its end, there is a directory.
* `ends_haveDirectories`: for a path that keeps to the limits, the tree is furnished with its
  directories, and all of them are there unless a file stands where one of them has to be.
-/

namespace DfaTable

open Files

namespace Files.Tree

variable {t u v : Tree} {new : Place → Entry → Prop}

/-- Nothing was changed or taken away between two trees, and what came along is `new`. -/
structure Grows (new : Place → Entry → Prop) (t u : Tree) : Prop where
  kept : ∀ q e, t.find? q = some e → u.find? q = some e
  added : ∀ q e, t.find? q = none → u.find? q = some e → new q e

theorem Grows.refl (t : Tree) : Grows new t t where
  kept _ _ h := h
  added q e hn hs := by
    rw [hn] at hs
    cases hs

theorem Grows.trans (h : Grows new t u) (g : Grows new u v) : Grows new t v where
  kept q e he := g.kept q e (h.kept q e he)
  added q e hn hs := by
    cases hu : u.find? q with
    | none => exact g.added q e hu hs
    | some f =>
      have hf := g.kept q f hu
      rw [hs] at hf
      cases hf
      exact h.added q e hn hu

instance : Std.Refl (Grows new) := ⟨Grows.refl⟩

instance : IsTrans Tree (Grows new) := ⟨fun _ _ _ => Grows.trans⟩

theorem Grows.mono {new' : Place → Entry → Prop} (hn : ∀ q e, new q e → new' q e)
    (h : Grows new t u) : Grows new' t u where
  kept := h.kept
  added q e hq he := hn q e (h.added q e hq he)

theorem Grows.put {q : Place} {e : Entry} (hq : t.find? q = none) (hn : new q e) :
    Grows new t (t.put q e) where
  kept p f hp := by
    rw [find?_put_of_none hq, if_neg, hp]
    rintro rfl
    rw [hq] at hp
    cases hp
  added p f hp hf := by
    rw [find?_put_of_none hq] at hf
    split at hf
    · cases hf
      subst_vars
      exact hn
    · rw [hp] at hf
      cases hf

end Files.Tree

/-! ## Paths and the directories above them -/

namespace Workspace

variable {w : Workspace} {p : Path} {q : Place}

/-- The places of a path: those on its way, and its own. -/
def trail (w : Workspace) (p : Path) : List Place := (w.start p).way p.names ++ [w.goal p]

theorem goal_congr {v : Workspace} (h : v.home = w.home) : v.goal p = w.goal p := by
  rw [goal, goal, start, start, h]

/-- A file stands where one of the directories of a path has to be. -/
def IsBlocked (w : Workspace) (p : Path) : Prop := ∃ q ∈ w.trail p.parent, w.files.HasFile q

/-- What making a file adds: directories above it, and the file, which is empty. -/
def Makes (w : Workspace) (p : Path) (q : Place) (e : Entry) : Prop :=
  e = .directory ∧ q ∈ w.trail p.parent ∨ e = .file [] ∧ q = w.goal p

/-- What has to be new for a file to be there: directories above it, and the file, which is empty,
unless one of the directories is in its place. -/
def Needs (w : Workspace) (p : Path) (q : Place) (e : Entry) : Prop :=
  e = .directory ∧ q ∈ w.trail p.parent ∨ e = .file [] ∧ q = w.goal p ∧ q ∉ w.trail p.parent

theorem goal_mem_trail (w : Workspace) (p : Path) : w.goal p ∈ w.trail p := by simp [trail]

theorem trail_concat (w : Workspace) (root : Text) (names : List Text) (n : Text) :
    w.trail ⟨root, names ++ [n]⟩ = w.trail ⟨root, names⟩ ++ [w.goal ⟨root, names ++ [n]⟩] := by
  show (w.start ⟨root, names⟩).way (names ++ [n]) ++ _ = _
  rw [Place.way_concat]
  rfl

/-- The directories that a path asks for are those of its parent and the parent itself. -/
theorem mem_trail_parent (h : q ∈ (w.start p).way p.names) : q ∈ w.trail p.parent := by
  rcases List.eq_nil_or_concat p.names with hp | ⟨names, n, hp⟩
  · rw [hp] at h
    cases h
  · rw [hp, List.concat_eq_append, Place.way_concat] at h
    have hn : p.parent.names = names := by simp [Path.parent, hp]
    rw [trail, goal, hn]
    exact h

theorem locate_of_way (hf : w.Fits p)
    (h : ∀ q ∈ (w.start p).way p.names, w.files.find? q = some .directory) :
    w.locate p = .ok (w.goal p) := by
  have hr := w.reach_locate p
  cases hl : w.locate p with
  | ok q => rw [(goal_of_locate hl).1]
  | error r =>
    rw [hl] at hr
    cases hr with
    | missing hq hn =>
      rw [h _ hq] at hn
      cases hn
    | notDirectory hq hn =>
      obtain ⟨bytes, hn⟩ := hn
      rw [h _ hq] at hn
      cases hn
    | nameTooLong hn => exact absurd hf hn

/-- A path that comes to a file comes to it behind directories. -/
theorem furnish_trail_of_locate (h : w.locate p = .error .notDirectory) :
    w.files.furnish (w.trail p) = w.files := by
  rw [locate] at h
  split at h
  · cases h
  · exact Tree.furnish_of_walk h _

theorem Fits.on (h : w.Fits p) (t : Tree) : (w.on t).Fits p := ⟨h.names, h.length⟩

theorem isPrefix_join_dropLast (names : List Text) :
    Text.join ['/'] names.dropLast <+: Text.join ['/'] names := by
  induction names with
  | nil => exact List.prefix_rfl
  | cons n names ih =>
    cases names with
    | nil => exact List.nil_prefix
    | cons m names =>
      rw [List.dropLast_cons_cons, Text.join_cons_cons]
      cases names with
      | nil => exact ⟨_, by rw [List.append_assoc]; rfl⟩
      | cons k names =>
        rw [List.dropLast_cons_cons, Text.join_cons_cons]
        obtain ⟨more, hm⟩ := ih
        rw [List.dropLast_cons_cons] at hm
        exact ⟨more, by rw [List.append_assoc, hm]⟩

/-- The text of a path is no longer without the last name. -/
theorem length_write_parent (h : (Encoding.Utf8.encode p.write).length < Path.limit) :
    (Encoding.Utf8.encode p.parent.write).length < Path.limit := by
  unfold Path.write at h ⊢
  split
  · decide
  · rename_i hd
    rw [if_neg] at h
    · have hp := (List.prefix_append_right_inj p.root).2 (isPrefix_join_dropLast p.names)
      exact Nat.lt_of_le_of_lt (List.IsPrefix.flatMap hp Encoding.Utf8.encodeChar).length_le h
    · intro he
      apply hd
      simp only [Bool.and_eq_true, List.isEmpty_iff] at he
      simp [Path.parent, he]

theorem Fits.parent (h : w.Fits p) : w.Fits p.parent where
  names n hn := by
    refine h.names n ?_
    rcases List.mem_append.1 hn with hn | hn
    · exact List.mem_append_left _ hn
    · exact List.mem_append_right _ (List.dropLast_subset _ hn)
  length := length_write_parent h.length

/-- A name is looked for in a directory. -/
theorem found?_parent (h : w.seek p = .ok q) (hp : p.names ≠ []) :
    w.found? p.parent = some .directory := by
  obtain ⟨hn, hl⟩ := seek_eq_ok_iff.1 h
  rw [locate] at hl
  split at hl
  · cases hl
  rename_i hlength
  obtain ⟨last, hlast⟩ : ∃ last, p.names = p.names.dropLast ++ [last] :=
    ⟨_, (List.dropLast_append_getLast hp).symm⟩
  rw [hlast, Tree.walk_append] at hl
  cases hw : w.files.walk (if p.root.isEmpty then w.home else []) p.names.dropLast with
  | error r =>
    rw [hw] at hl
    cases hl
  | ok g =>
    rw [hw] at hl
    refine found?_eq_some_iff.2 ⟨g, seek_eq_ok_iff.2 ⟨?_, ?_⟩, ?_⟩
    · rw [Path.hasNull, List.any_eq_false] at hn ⊢
      exact fun n hn' => hn n (List.dropLast_subset _ hn')
    · have hshort := length_write_parent (p := p) (by omega)
      rw [locate, if_neg (by omega)]
      exact hw
    · rw [Except.bind, Tree.walk] at hl
      cases hf : w.files.find? g with
      | none => simp [hf] at hl
      | some e =>
        cases e with
        | file bytes => simp [hf] at hl
        | directory => rfl

/-- Above a directory there is another one, or it is the first. -/
theorem found?_parent_of_directory (h : w.found? p = some .directory) :
    w.found? p.parent = some .directory := by
  by_cases hp : p.names = []
  · have hparent : p.parent = p := by rw [Path.parent, hp, List.dropLast_nil, ← hp]
    rwa [hparent]
  · obtain ⟨q, hq, -⟩ := found?_eq_some_iff.1 h
    exact found?_parent hq hp

end Workspace

/-! ## Directories -/

namespace Files

variable {w : Workspace} {p : Path} {q : Place}

theorem ends_makeDirectory_error {f : Fault} (h : w.seek p = .error f) :
    (makeDirectory p).Ends w (.error f) w.files :=
  ends_locate_bind_error h

theorem ends_makeDirectory_some {e : Entry} (h : w.seek p = .ok q)
    (he : w.files.find? q = some e) :
    (makeDirectory p).Ends w (.error (.file { refusal := .alreadyThere, path := p.write }))
      w.files := by
  refine ends_locate_bind h (.get_bind fun j => ?_)
  dsimp only
  rw [he]
  exact ends_refuse _ p

theorem ends_makeDirectory_none (h : w.seek p = .ok q) (he : w.files.find? q = none) :
    (makeDirectory p).Ends w (.ok ()) (w.files.put q .directory) := by
  refine ends_locate_bind h (.get_bind fun j => ?_)
  dsimp only
  rw [he]
  exact .put q .directory

section
variable {R : Tree → Tree → Prop} [Std.Refl R]

/-- Work that puts an entry at the place of a path if nothing is there, and otherwise leaves all as
it is. -/
theorem moves_of_put {m : Work Unit} {e : Entry}
    (hput : ∀ t : Tree, t.find? (w.goal p) = none → R t (t.put (w.goal p) e))
    (herror : ∀ {v : Workspace} {f}, v.seek p = .error f → m.Ends v (.error f) v.files)
    (hsome : ∀ {v : Workspace} {q e'}, v.seek p = .ok q → v.files.find? q = some e' →
      ∃ r, m.Ends v r v.files)
    (hnone : ∀ {v : Workspace} {q}, v.seek p = .ok q → v.files.find? q = none →
      m.Ends v (.ok ()) (v.files.put q e)) :
    Work.Moves w.home R m := by
  intro v hv
  cases hs : v.seek p with
  | error f => exact ⟨_, _, herror hs, Std.Refl.refl _⟩
  | ok q =>
    cases he : v.files.find? q with
    | some e' =>
      obtain ⟨r, hr⟩ := hsome hs he
      exact ⟨r, _, hr, Std.Refl.refl _⟩
    | none =>
      have hq : q = w.goal p := by
        rw [← Workspace.goal_congr hv]
        exact (Workspace.goal_of_locate (Workspace.seek_eq_ok_iff.1 hs).2).1
      subst hq
      exact ⟨_, _, hnone hs he, hput _ he⟩

theorem moves_makeDirectory
    (hput : ∀ t : Tree, t.find? (w.goal p) = none → R t (t.put (w.goal p) .directory)) :
    Work.Moves w.home R (makeDirectory p) :=
  moves_of_put hput ends_makeDirectory_error (fun h he => ⟨_, ends_makeDirectory_some h he⟩)
    ends_makeDirectory_none

theorem moves_isDirectory {home : Place} (p : Path) : Work.Moves home R (isDirectory p) :=
  .of_ends fun w => ⟨_, ends_isDirectory w p⟩

variable [IsTrans Tree R]

theorem moves_haveDirectory
    (hput : ∀ t : Tree, t.find? (w.goal p) = none → R t (t.put (w.goal p) .directory)) :
    Work.Moves w.home R (haveDirectory p) := by
  refine (moves_makeDirectory hput).tryCatch fun f => ?_
  cases f with
  | file x =>
    dsimp only
    split
    · exact .throw _
    · refine (moves_isDirectory p).bind fun b => ?_
      cases b
      · exact .throw _
      · exact .pure _
  | _ => exact .throw _

theorem moves_haveDirectoriesFrom {root : Text} {names : List Text}
    (hput : ∀ q ∈ w.trail ⟨root, names.reverse⟩, ∀ t : Tree, t.find? q = none →
      R t (t.put q .directory)) :
    Work.Moves w.home R (haveDirectoriesFrom root names) := by
  induction names with
  | nil => exact moves_haveDirectory (hput _ (w.goal_mem_trail _))
  | cons n above ih =>
    have hd := moves_haveDirectory (hput _ (w.goal_mem_trail _))
    refine hd.tryCatch fun f => ?_
    split
    · refine (ih fun q hq => hput q ?_).bind fun _ => hd
      rw [List.reverse_cons, Workspace.trail_concat]
      exact List.mem_append_left _ hq
    · exact .throw _

/-- However making directories ends, it leads from tree to tree by putting directories that are
missing. -/
theorem moves_haveDirectories
    (hput : ∀ q ∈ w.trail p, ∀ t : Tree, t.find? q = none → R t (t.put q .directory)) :
    Work.Moves w.home R (haveDirectories p) :=
  moves_haveDirectoriesFrom (by rwa [List.reverse_reverse])

end

/-- Making directories adds nothing else than these directories. -/
theorem grows_of_haveDirectories {r : Except Fault Unit} {t : Tree}
    (h : (haveDirectories p).Ends w r t) :
    Tree.Grows (fun q e => e = .directory ∧ q ∈ w.trail p) w.files t := by
  have hmoves := moves_haveDirectories (w := w) (p := p)
    (R := Tree.Grows fun q e => e = .directory ∧ q ∈ w.trail p) fun q hq t ht => .put ht ⟨rfl, hq⟩
  obtain ⟨r', t', h', hg⟩ := hmoves w rfl
  rw [(h.unique h').2]
  exact hg

/-! ## Directories that were made -/

/-- Where a path leads nowhere, no directory is found at it, and none is made. -/
theorem ends_haveDirectory_error {f : Fault} (hs : w.seek p = .error f) :
    ∃ g, (haveDirectory p).Ends w (.error g) w.files := by
  have hm := ends_makeDirectory_error hs
  have hno : w.look p ≠ .ok (some .directory) := by
    intro hl
    obtain ⟨q, hq, -⟩ := Workspace.found?_eq_some_iff.1 (Workspace.look_eq_ok hl)
    rw [hs] at hq
    cases hq
  have hi := ends_isDirectory w p
  cases f with
  | file x =>
    by_cases hx : (x.refusal == .missing) = true
    · exact ⟨_, hm.tryCatch_error (by dsimp only; rw [if_pos hx]; exact .throw _)⟩
    · cases hl : w.look p with
      | error g =>
        rw [hl] at hi
        exact ⟨_, hm.tryCatch_error (by dsimp only; rw [if_neg hx]; exact hi.bind_error)⟩
      | ok e? =>
        have he : (e? == some Entry.directory) = false := by
          rw [beq_eq_false_iff_ne]
          rintro rfl
          exact hno hl
        rw [hl, Except.map, he] at hi
        exact ⟨_, hm.tryCatch_error (by dsimp only; rw [if_neg hx]; exact hi.bind (.throw _))⟩
  | _ => exact ⟨_, hm.tryCatch_error (.throw _)⟩

/-- Making a directory comes to no other end than that there is one. -/
theorem found?_of_haveDirectory {t : Tree} (h : (haveDirectory p).Ends w (.ok ()) t) :
    (w.on t).found? p = some .directory := by
  cases hs : w.seek p with
  | error f =>
    obtain ⟨g, hg⟩ := ends_haveDirectory_error hs
    cases (h.unique hg).1
  | ok q =>
    obtain ⟨hn, hl⟩ := Workspace.seek_eq_ok_iff.1 hs
    cases he : w.files.find? q with
    | none =>
      obtain ⟨-, rfl⟩ := h.unique (ends_makeDirectory_none hs he).tryCatch
      have hput := fun d => Tree.find?_put_of_none he .directory d
      refine Workspace.found?_eq_some_iff.2 ⟨q, Workspace.seek_eq_ok_iff.2 ⟨hn, ?_⟩, ?_⟩
      · refine Workspace.locate_mono (fun d hd => ?_) hl
        rw [hput, hd, ite_self]
      · exact (hput q).trans (if_pos rfl)
    | some e =>
      have hm := ends_makeDirectory_some hs he
      have hi := ends_isDirectory w p
      have hfound := Workspace.found?_eq_some_iff.2 ⟨q, hs, he⟩
      rw [Workspace.look_of_found? hfound] at hi
      cases e with
      | directory =>
        obtain ⟨-, rfl⟩ := h.unique (hm.tryCatch_error (hi.bind (.pure ())))
        exact hfound
      | file bytes => cases (h.unique (hm.tryCatch_error (hi.bind (.throw _)))).1

theorem found?_of_haveDirectoriesFrom {root : Text} {names : List Text} {t : Tree}
    (h : (haveDirectoriesFrom root names).Ends w (.ok ()) t) :
    (w.on t).found? ⟨root, names.reverse⟩ = some .directory := by
  cases names with
  | nil => exact found?_of_haveDirectory h
  | cons n above =>
    -- Whichever attempt comes to its end, it is one at the directory itself.
    have hmoves {q : Path} :
        Work.Moves w.home (Tree.Grows fun _ _ => True) (haveDirectory q) :=
      moves_haveDirectory fun _ hq => .put hq trivial
    obtain ⟨r, u, hu, -⟩ := hmoves w rfl
    cases r with
    | ok x =>
      obtain ⟨-, rfl⟩ := h.unique hu.tryCatch
      exact found?_of_haveDirectory hu
    | error f =>
      by_cases hm : isMissing f = true
      · have habove :
            Work.Moves w.home (Tree.Grows fun _ _ => True) (haveDirectoriesFrom root above) :=
          moves_haveDirectoriesFrom fun _ _ _ hq => .put hq trivial
        obtain ⟨r, v, hv, -⟩ := habove (w.on u) rfl
        have hagain {r' t'} (hr : (haveDirectoriesFrom root above >>= fun _ =>
            haveDirectory ⟨root, (n :: above).reverse⟩).Ends (w.on u) r' t') :
            (haveDirectoriesFrom root (n :: above)).Ends w r' t' :=
          hu.tryCatch_error (by rw [if_pos hm]; exact hr)
        cases r with
        | error g => cases (h.unique (hagain hv.bind_error)).1
        | ok x =>
          obtain ⟨r', t', ht, -⟩ := hmoves (w.on v) rfl
          obtain ⟨rfl, rfl⟩ := h.unique (hagain (hv.bind ht))
          have hfound := found?_of_haveDirectory ht
          exact hfound
      · have hf : (haveDirectoriesFrom root (n :: above)).Ends w (.error f) u :=
          hu.tryCatch_error (by rw [if_neg hm]; exact .throw _)
        cases (h.unique hf).1

/-- Where there is a directory, none is made. -/
theorem ends_haveDirectories_there (h : w.found? p = some .directory) :
    (haveDirectories p).Ends w (.ok ()) w.files := by
  obtain ⟨q, hq, hf⟩ := Workspace.found?_eq_some_iff.1 h
  have hi := ends_isDirectory w p
  rw [Workspace.look_of_found? h] at hi
  have hd : (haveDirectory p).Ends w (.ok ()) w.files :=
    (ends_makeDirectory_some hq hf).tryCatch_error (hi.bind (.pure ()))
  have hp : (⟨p.root, p.names.reverse.reverse⟩ : Path) = p := by rw [List.reverse_reverse]
  rw [← hp] at hd
  unfold haveDirectories
  cases hn : p.names.reverse with
  | nil =>
    rw [hn] at hd
    exact hd
  | cons n above =>
    rw [hn] at hd
    exact hd.tryCatch

/-- Where making directories has come to its end, the path is one of a directory. -/
theorem found?_of_haveDirectories {t : Tree} (h : (haveDirectories p).Ends w (.ok ()) t) :
    (w.on t).found? p = some .directory := by
  have hf := found?_of_haveDirectoriesFrom h
  rwa [List.reverse_reverse] at hf

/-! ## Directories of paths within the limits -/

/-- What making a directory comes to where nothing is missing above it: it is there with all above
it, or a file stands in the place of one of them. -/
inductive Made (w : Workspace) (p : Path) : Except Fault Unit → Tree → Prop where
  | there {t : Tree} : (∀ q ∈ w.trail p, t.find? q = some .directory) →
      (∀ q ∈ w.trail p, ¬ w.files.HasFile q) → Made w p (.ok ()) t
  | blocked {x : Trouble} {q : Place} {t : Tree} : x.refusal ≠ .missing → q ∈ w.trail p →
      w.files.HasFile q → Made w p (.error (.file x)) t

theorem not_hasFile {t : Tree} (h : t.find? q = some .directory) : ¬ t.HasFile q := by
  rintro ⟨bytes, hb⟩
  rw [h] at hb
  cases hb

theorem forall_trail {P : Place → Prop} (hw : ∀ q ∈ (w.start p).way p.names, P q)
    (hg : P (w.goal p)) : ∀ q ∈ w.trail p, P q := by
  intro q hq
  rcases List.mem_append.1 hq with hq | hq
  · exact hw q hq
  · rw [List.mem_singleton.1 hq]
    exact hg

/-- A path at which there is a directory goes through directories only. -/
theorem forall_trail_of_found? (h : w.found? p = some .directory) :
    ∀ q ∈ w.trail p, w.files.find? q = some .directory := by
  obtain ⟨q, hq, hfound⟩ := Workspace.found?_eq_some_iff.1 h
  obtain ⟨rfl, hway⟩ := Workspace.goal_of_locate (Workspace.seek_eq_ok_iff.1 hq).2
  exact forall_trail hway hfound

theorem ends_haveDirectory (hf : w.Fits p) :
    (∃ r, (haveDirectory p).Ends w r (w.files.furnish (w.trail p)) ∧
      Made w p r (w.files.furnish (w.trail p))) ∨
    ∃ x : Trouble, (haveDirectory p).Ends w (.error (.file x)) w.files ∧ x.refusal = .missing ∧
      ∃ q ∈ (w.start p).way p.names, w.files.find? q = none := by
  have hn := hf.hasNull
  have hr := w.reach_locate p
  cases hl : w.locate p with
  | ok q =>
    obtain ⟨rfl, hd⟩ := Workspace.goal_of_locate hl
    have hs := Workspace.seek_eq_ok_iff.2 ⟨hn, hl⟩
    have hfurnish : w.files.furnish (w.trail p) = w.files.furnish [w.goal p] := by
      rw [Workspace.trail, Tree.furnish_append fun q hq => not_hasFile (hd q hq),
        Tree.furnish_of_directories hd]
    left
    rw [hfurnish]
    cases he : w.files.find? (w.goal p) with
    | none =>
      rw [Tree.furnish_cons_none he, Tree.furnish_nil]
      refine ⟨_, (ends_makeDirectory_none hs he).tryCatch, .there ?_ ?_⟩
      · refine forall_trail (fun q hq => ?_) ?_
        · rw [Tree.find?_put_of_none he, hd q hq, ite_self]
        · rw [Tree.find?_put_of_none he, if_pos rfl]
      · refine forall_trail (fun q hq => not_hasFile (hd q hq)) ?_
        rintro ⟨bytes, hb⟩
        rw [he] at hb
        cases hb
    | some e =>
      have hm := ends_makeDirectory_some hs he
      have hi := ends_isDirectory w p
      rw [Workspace.look_of_found? (Workspace.found?_eq_some_iff.2 ⟨_, hs, he⟩)] at hi
      cases e with
      | directory =>
        have ht := forall_trail hd he
        rw [Tree.furnish_cons_directory he, Tree.furnish_nil]
        exact ⟨_, hm.tryCatch_error (hi.bind (.pure ())),
          .there ht fun q hq => not_hasFile (ht q hq)⟩
      | file bytes =>
        rw [Tree.furnish_cons_file ⟨bytes, he⟩]
        exact ⟨_, hm.tryCatch_error (hi.bind (.throw _)),
          .blocked (by simp) (w.goal_mem_trail p) ⟨bytes, he⟩⟩
  | error r =>
    rw [hl] at hr
    have hm := ends_makeDirectory_error (Workspace.seek_of_locate hn hl)
    cases hr with
    | missing hq hf => exact .inr ⟨_, hm.tryCatch_error (.throw _), rfl, _, hq, hf⟩
    | notDirectory hq hb =>
      have hi := ends_isDirectory w p
      rw [Workspace.look, hn, hl] at hi
      rw [Workspace.furnish_trail_of_locate hl]
      exact .inl ⟨_, hm.tryCatch_error (hi.bind (.throw _)),
        .blocked (by simp) (List.mem_append_left _ hq) hb⟩
    | nameTooLong hb => exact absurd hf hb

/-- A file in a tree that has only got new directories was there before. -/
theorem hasFile_of_grows {t : Tree} (hg : Tree.Grows (fun _ e => e = .directory) w.files t)
    (h : t.HasFile q) : w.files.HasFile q := by
  obtain ⟨bytes, ht⟩ := h
  cases hw : w.files.find? q with
  | none => cases hg.added q _ hw ht
  | some e =>
    have he := hg.kept q e hw
    rw [ht] at he
    cases he
    exact ⟨bytes, hw⟩

/-- With the directories above it, a directory can be made, unless a file is in its place. -/
theorem ends_haveDirectory_again {t : Tree} (hf : w.Fits p)
    (hg : Tree.Grows (fun _ e => e = .directory) w.files t)
    (hd : ∀ q ∈ (w.start p).way p.names, t.find? q = some .directory) :
    ∃ r, (haveDirectory p).Ends (w.on t) r (t.furnish (w.trail p)) ∧
      Made w p r (t.furnish (w.trail p)) := by
  rcases ends_haveDirectory (hf.on t) with ⟨r, he, hr⟩ | ⟨x, he, hx, q, hq, hm⟩
  · have htree : (w.on t).files.furnish ((w.on t).trail p) = t.furnish (w.trail p) := rfl
    rw [htree] at he hr
    refine ⟨r, he, ?_⟩
    generalize t.furnish (w.trail p) = u at hr ⊢
    cases hr with
    | there hu hb => exact .there hu fun q hq ⟨bytes, hw⟩ => hb q hq ⟨bytes, hg.kept q _ hw⟩
    | blocked hx hq hb => exact .blocked hx hq (hasFile_of_grows hg hb)
  · have : t.find? q = none := hm
    rw [hd q hq] at this
    cases this

/-- Where something is missing above a directory, what is above it is made first. -/
theorem ends_haveDirectoriesFrom_cons {root n : Text} {above : List Text} {x : Trouble}
    {r : Except Fault Unit} {t : Tree} (hx : x.refusal = .missing)
    (hp : (haveDirectory ⟨root, (n :: above).reverse⟩).Ends w (.error (.file x)) w.files)
    (h : (haveDirectoriesFrom root above >>= fun _ =>
      haveDirectory ⟨root, (n :: above).reverse⟩).Ends w r t) :
    (haveDirectoriesFrom root (n :: above)).Ends w r t := by
  refine hp.tryCatch_error ?_
  rw [if_pos (by simp [isMissing, hx])]
  exact h

theorem ends_haveDirectoriesFrom {root : Text} {names : List Text}
    (hf : w.Fits ⟨root, names.reverse⟩) :
    ∃ r, (haveDirectoriesFrom root names).Ends w r
        (w.files.furnish (w.trail ⟨root, names.reverse⟩)) ∧
      Made w ⟨root, names.reverse⟩ r (w.files.furnish (w.trail ⟨root, names.reverse⟩)) := by
  -- By induction on the names from the last one on. Where something is missing above the directory,
  -- those above it are made, and then the directory is tried in a tree that has only grown.
  induction names with
  | nil =>
    rcases ends_haveDirectory hf with h | ⟨_, _, _, q, hq, _⟩
    · exact h
    · cases hq
  | cons n above ih =>
    rcases ends_haveDirectory hf with ⟨r, he, hr⟩ | ⟨x, he, hx, -⟩
    · generalize w.files.furnish (w.trail ⟨root, (n :: above).reverse⟩) = t at he hr
      cases hr with
      | there ht hb => exact ⟨_, he.tryCatch, .there ht hb⟩
      | blocked hx hq hb =>
        refine ⟨_, he.tryCatch_error ?_, .blocked hx hq hb⟩
        rw [if_neg (by simpa [isMissing] using hx)]
        exact .throw _
    · have hp : (⟨root, (n :: above).reverse⟩ : Path).parent = ⟨root, above.reverse⟩ := by
        simp [Path.parent]
      have htrail := w.trail_concat root above.reverse n
      rw [← List.reverse_cons] at htrail
      obtain ⟨r, ht, hr⟩ := ih (hp ▸ hf.parent)
      have hmoves : Work.Moves w.home (Tree.Grows fun _ e => e = .directory)
          (haveDirectoriesFrom root above) :=
        moves_haveDirectoriesFrom fun _ _ _ hq => .put hq rfl
      obtain ⟨r', t', ht', hg⟩ := hmoves w rfl
      obtain ⟨-, rfl⟩ := ht.unique ht'
      cases hr with
      | blocked hx' hq hb =>
        rw [htrail, Tree.furnish_append_of_hasFile ⟨_, hq, hb⟩]
        exact ⟨_, ends_haveDirectoriesFrom_cons hx he ht.bind_error,
          .blocked hx' (htrail ▸ List.mem_append_left _ hq) hb⟩
      | there hd hb =>
        obtain ⟨r, hu, hm⟩ := ends_haveDirectory_again hf hg fun q hq =>
          hd q (hp ▸ Workspace.mem_trail_parent hq)
        -- The directories above are there by now, so going through them again adds nothing.
        have hagain : (w.files.furnish (w.trail ⟨root, above.reverse⟩)).furnish
            (w.trail ⟨root, (n :: above).reverse⟩) =
              w.files.furnish (w.trail ⟨root, (n :: above).reverse⟩) := by
          rw [htrail, Tree.furnish_append hb, Tree.furnish_append fun q hq => not_hasFile (hd q hq),
            Tree.furnish_of_directories hd]
        rw [hagain] at hu hm
        exact ⟨r, ends_haveDirectoriesFrom_cons hx he (ht.bind hu), hm⟩

/-- What becomes of a directory and those above it, for a path that keeps to the limits. -/
theorem ends_haveDirectories (hf : w.Fits p) :
    ∃ r, (haveDirectories p).Ends w r (w.files.furnish (w.trail p)) ∧
      Made w p r (w.files.furnish (w.trail p)) := by
  have hp : (⟨p.root, p.names.reverse.reverse⟩ : Path) = p := by rw [List.reverse_reverse]
  rw [← hp] at hf
  have h := ends_haveDirectoriesFrom hf
  rwa [hp] at h

/-! ## Files -/

theorem ends_touch_none (h : w.seek p = .ok q) (he : w.files.find? q = none) :
    (touch p).Ends w (.ok ()) (w.files.put q (.file [])) := by
  refine ends_locate_bind h (.get_bind fun j => ?_)
  dsimp only
  rw [he]
  exact .put q (.file [])

theorem ends_touch_some {e : Entry} (h : w.seek p = .ok q) (he : w.files.find? q = some e) :
    (touch p).Ends w (.ok ()) w.files := by
  refine ends_locate_bind h (.get_bind fun j => ?_)
  dsimp only
  rw [he]
  exact .pure ()

theorem ends_touch_error {f : Fault} (h : w.seek p = .error f) :
    (touch p).Ends w (.error f) w.files :=
  ends_locate_bind_error h

theorem moves_touch {R : Tree → Tree → Prop} [Std.Refl R]
    (hput : ∀ t : Tree, t.find? (w.goal p) = none → R t (t.put (w.goal p) (.file []))) :
    Work.Moves w.home R (touch p) :=
  moves_of_put hput ends_touch_error (fun h he => ⟨_, ends_touch_some h he⟩) ends_touch_none

end Files
end DfaTable
