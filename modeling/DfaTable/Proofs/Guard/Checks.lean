import DfaTable.Guard
import DfaTable.Proofs.Files.Growth
import Mathlib.Data.List.TakeWhile

/-!
# DfaTable.Proofs.Guard.Checks

What the checks of the two paths come to, with one rule for each outcome.

* `checksInput`, `checksOutput`: no other outcome is possible.
* `ChecksOutput.grows`: whatever the outcome, checking the output adds nothing but the file, which
  is empty, and directories above it.
* `ends_create`: within the limits, a file is made just if no file stands in its way; which
  directories there are then.
-/

namespace DfaTable

open Files

namespace Files

variable {w : Workspace} {p : Path}

theorem ends_isFile_of_file {bytes : List UInt8} (h : w.look p = .ok (some (.file bytes))) :
    (isFile p).Ends w (.ok true) w.files := by
  have hi := ends_find? w p
  rw [h] at hi
  exact hi.bind (.pure true)

theorem ends_isFile_of_directory (h : w.look p = .ok (some .directory)) :
    (isFile p).Ends w (.ok false) w.files := by
  have hi := ends_find? w p
  rw [h] at hi
  exact hi.bind (.pure false)

end Files

namespace Guard

variable {w : Workspace} {p : Path}

theorem ends_fail {α : Type} (guard : String) (code : ExitCode) (p : Path) (message details : Text)
    (more : List (Text × Value)) :
    (fail guard code p message details more : Work (Except GuardError α)).Ends w
      (.ok (.error { code := code.number, message, details })) w.files :=
  .bind (.onJournal _) (.pure _)

/-! ## The input -/

/-- What checking the input comes to. No file is changed by it. -/
inductive ChecksInput (w : Workspace) (p : Path) :
    Except Fault (Except GuardError Path) → Prop where
  | fault {f : Fault} : w.look p = .error f → ChecksInput w p (.error f)
  | noFile {e : GuardError} : (∀ bytes, w.found? p ≠ some (.file bytes)) →
      e.code = ExitCode.input.number → ChecksInput w p (.ok (.error e))
  | file {bytes : List UInt8} : w.found? p = some (.file bytes) → ChecksInput w p (.ok (.ok p))

theorem checksInput (w : Workspace) (p : Path) :
    ∃ r, (checkInput p).Ends w r w.files ∧ ChecksInput w p r := by
  have hi := ends_isThere w p
  cases hl : w.look p with
  | error f =>
    rw [hl] at hi
    exact ⟨_, hi.bind_error, .fault hl⟩
  | ok e? =>
    rw [hl] at hi
    have he := Workspace.look_eq_ok hl
    match e? with
    | none =>
      exact ⟨_, hi.bind (ends_fail "input_file" .input p _ _ _), .noFile (by simp [he]) rfl⟩
    | some .directory =>
      exact ⟨_, hi.bind ((ends_isFile_of_directory hl).bind
        (ends_fail "input_file" .input p _ _ _)), .noFile (by simp [he]) rfl⟩
    | some (.file bytes) =>
      exact ⟨_, hi.bind ((ends_isFile_of_file hl).bind (.bind (.onJournal _) (.pure _))),
        .file he⟩

/-! ## Making a file -/

theorem moves_create (w : Workspace) (p : Path) :
    Work.Moves w.home (Tree.Grows (w.Makes p)) (create p) := by
  refine .tryCatch ?_ fun f => ?_
  · have hd : Work.Moves w.home (Tree.Grows (w.Makes p)) (haveDirectories p.parent) :=
      moves_haveDirectories fun q hq _ hn => .put hn (.inl ⟨rfl, hq⟩)
    have hf : Work.Moves w.home (Tree.Grows (w.Makes p)) (touch p) :=
      moves_touch fun _ hn => .put hn (.inr ⟨rfl, rfl⟩)
    exact hd.bind fun _ => hf.bind fun _ => .pure none
  · cases f with
    | file x => exact .pure _
    | _ => exact .throw _

theorem ends_create (hf : w.Fits p) :
    (w.IsBlocked p ∧ ∃ x,
      (create p).Ends w (.ok (some x)) (w.files.furnish (w.trail p.parent))) ∨
    ¬ w.IsBlocked p ∧ ∃ t, (create p).Ends w (.ok none) t ∧
      Tree.Extends (w.Needs p) w.files t := by
  obtain ⟨r, ht, hr⟩ := ends_haveDirectories hf.parent
  have hnew := Tree.extends_furnish w.files (w.trail p.parent)
  generalize w.files.furnish (w.trail p.parent) = t at ht hr hnew
  cases hr with
  | @blocked x q t _ hq hb =>
    exact .inl ⟨⟨q, hq, hb⟩, x, ht.bind_error.tryCatch_error (.pure _)⟩
  | there hd hb =>
    right
    refine ⟨fun ⟨q, hq, h⟩ => hb q hq h, ?_⟩
    rw [List.takeWhile_eq_self_iff.2 (by simpa using hb)] at hnew
    have hl := Workspace.locate_of_way (hf.on t) fun q hq =>
      hd q (Workspace.mem_trail_parent (w := w) hq)
    have hs := Workspace.seek_eq_ok_iff.2 ⟨hf.hasNull, hl⟩
    cases he : t.find? (w.goal p) with
    | none =>
      refine ⟨_, (ht.bind ((ends_touch_none hs he).bind (.pure none))).tryCatch,
        (hnew.put he).congr fun q e _ => or_congr_right ?_⟩
      have hgoal : w.goal p ∉ w.trail p.parent := fun hg => by
        rw [hd _ hg] at he
        cases he
      constructor
      · rintro ⟨rfl, rfl⟩
        exact ⟨rfl, rfl, hgoal⟩
      · rintro ⟨rfl, rfl, -⟩
        exact ⟨rfl, rfl⟩
    | some x =>
      refine ⟨_, (ht.bind ((ends_touch_some hs he).bind (.pure none))).tryCatch,
        hnew.congr fun q e hq => (or_iff_left ?_).symm⟩
      rintro ⟨-, rfl, hgoal⟩
      rcases (hnew _ x).1 he with h | ⟨-, -, h⟩
      · rw [hq] at h
        cases h
      · exact hgoal h

/-- However making a file ends, it is one of the two. -/
theorem create_cases {r : Except Fault (Option Trouble)} {t : Tree} (hf : w.Fits p)
    (h : (create p).Ends w r t) :
    (w.IsBlocked p ∧ (∃ x, r = .ok (some x)) ∧ t = w.files.furnish (w.trail p.parent)) ∨
    ¬ w.IsBlocked p ∧ r = .ok none ∧ Tree.Extends (w.Needs p) w.files t := by
  rcases ends_create hf with ⟨hb, x, hx⟩ | ⟨hb, u, hu, hnew⟩
  · obtain ⟨rfl, rfl⟩ := h.unique hx
    exact .inl ⟨hb, ⟨x, rfl⟩, rfl⟩
  · obtain ⟨rfl, rfl⟩ := h.unique hu
    exact .inr ⟨hb, rfl, hnew⟩

/-! ## The output -/

/-- What checking the output comes to, and the files afterwards. -/
inductive ChecksOutput (w : Workspace) (p : Path) :
    Except Fault (Except GuardError Bool) → Tree → Prop where
  | fault {f : Fault} : w.look p = .error f → ChecksOutput w p (.error f) w.files
  | directory {e : GuardError} : w.found? p = some .directory → e.code = ExitCode.output.number →
      ChecksOutput w p (.ok (.error e)) w.files
  | found {bytes : List UInt8} : w.found? p = some (.file bytes) →
      ChecksOutput w p (.ok (.ok true)) w.files
  | created {t : Tree} : w.look p = .ok none → (create p).Ends w (.ok none) t →
      ChecksOutput w p (.ok (.ok false)) t
  | notCreated {x : Trouble} {e : GuardError} {t : Tree} : w.look p = .ok none →
      (create p).Ends w (.ok (some x)) t → e.code = ExitCode.output.number →
      ChecksOutput w p (.ok (.error e)) t
  | createFault {f : Fault} {t : Tree} : w.look p = .ok none → (create p).Ends w (.error f) t →
      ChecksOutput w p (.error f) t

theorem checksOutput (w : Workspace) (p : Path) :
    ∃ r t, (checkOutput p).Ends w r t ∧ ChecksOutput w p r t := by
  have hd := ends_isDirectory w p
  have hi := ends_isThere w p
  cases hl : w.look p with
  | error f =>
    rw [hl] at hd
    exact ⟨_, _, hd.bind_error, .fault hl⟩
  | ok e? =>
    rw [hl] at hd hi
    have he := Workspace.look_eq_ok hl
    match e? with
    | some .directory =>
      exact ⟨_, _, hd.bind (ends_fail "output_file" .output p _ _ _), .directory he rfl⟩
    | some (.file bytes) =>
      exact ⟨_, _, hd.bind (hi.bind (.bind (.onJournal _) (.pure _))), .found he⟩
    | none =>
      obtain ⟨x, t, hx, -⟩ := moves_create w p w rfl
      match x with
      | .error f => exact ⟨_, t, hd.bind (hi.bind hx.bind_error), .createFault hl hx⟩
      | .ok none =>
        exact ⟨_, t, hd.bind (hi.bind (hx.bind (.bind (.onJournal _) (.pure _)))), .created hl hx⟩
      | .ok (some x) =>
        exact ⟨_, t, hd.bind (hi.bind (hx.bind (ends_fail "output_file" .output p _ _ _))),
          .notCreated hl hx rfl⟩

section
variable {r : Except Fault (Except GuardError Bool)} {t : Tree}

theorem grows_of_create {x : Except Fault (Option Trouble)} (h : (create p).Ends w x t) :
    Tree.Grows (w.Makes p) w.files t := by
  obtain ⟨x', t', h', hg⟩ := moves_create w p w rfl
  rw [(h.unique h').2]
  exact hg

/-- However it goes, checking the output changes nothing that is there. -/
theorem ChecksOutput.grows (h : ChecksOutput w p r t) : Tree.Grows (w.Makes p) w.files t := by
  cases h with
  | fault => exact .refl _
  | directory => exact .refl _
  | found => exact .refl _
  | created _ hc => exact grows_of_create hc
  | notCreated _ hc => exact grows_of_create hc
  | createFault _ hc => exact grows_of_create hc

theorem ChecksOutput.code_eq {g : GuardError} (h : ChecksOutput w p (.ok (.error g)) t) :
    g.code = ExitCode.output.number := by
  cases h with
  | directory _ hc => exact hc
  | notCreated _ _ hc => exact hc

/-- A file that is there already is left as it is, and all others with it. -/
theorem ChecksOutput.eq_of_file {bytes : List UInt8} (h : ChecksOutput w p r t)
    (he : w.found? p = some (.file bytes)) : t = w.files := by
  have hl := Workspace.look_of_found? he
  cases h with
  | fault => rfl
  | directory => rfl
  | found => rfl
  | created hn => cases hl.symm.trans hn
  | notCreated hn => cases hl.symm.trans hn
  | createFault hn => cases hl.symm.trans hn

end

end Guard
end DfaTable
