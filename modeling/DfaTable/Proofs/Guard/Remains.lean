import DfaTable.Proofs.Guard.Checks

/-!
# DfaTable.Proofs.Guard.Remains

What both checks together leave in the file system.

* `HasFailed`: a failed check changes nothing, but directories may have been made on the way to a
  file that stands where another directory has to be.
* `HasPassed`: checks that pass add an empty file and what has to be above it, if there was none.
* `remains_of_check`: for paths within the limits, one of the two is the case.
-/

namespace DfaTable

open Files

/-- The places of the directories above a path, up to the first that is one of a file. -/
def Workspace.entered (w : Workspace) (p : Path) : List Place :=
  (w.trail p.parent).takeWhile fun q => ¬ w.files.HasFile q

namespace Guard

/-- A check of the two paths has failed with an error and left these files. -/
structure HasFailed (w : Workspace) (input output : Path) (e : GuardError) (t : Tree) : Prop where
  /-- Without an input file the error is that of the input, and nothing is changed. -/
  of_noInput : (∀ bytes, w.found? input ≠ some (.file bytes)) →
    e.code = ExitCode.input.number ∧ t = w.files
  /-- With one it is that of the output, which is a directory or has a file in its way; at most the
  directories that are come to before this file are new. -/
  of_input : (∃ bytes, w.found? input = some (.file bytes)) →
    e.code = ExitCode.output.number ∧
    (w.found? output = some .directory ∨ w.IsBlocked output) ∧
    Tree.Extends (fun q x => x = .directory ∧ q ∈ w.entered output) w.files t
  /-- Nothing is changed for the sake of a directory. -/
  eq_of_directory : w.found? output = some .directory → t = w.files
  /-- Nothing is changed unless the path goes up again behind a directory that is missing. -/
  eq_of_not_turnsBack : w.files.IsClosed →
    ¬ w.files.TurnsBack (w.start output) output.parent.names → t = w.files

/-- Both paths are good, and there are these files now; the answer is whether there was something at
the output before. -/
structure HasPassed (w : Workspace) (input output : Path) (b : Bool) (t : Tree) : Prop where
  hasInput : ∃ bytes, w.found? input = some (.file bytes)
  eq_true_iff : b = true ↔ ∃ x, w.found? output = some x
  eq_of_there : b = true → t = w.files
  made : b = false → Tree.Extends (w.Needs output) w.files t

variable {w : Workspace} {input output : Path}

/-- Where a directory is, nothing is missing above it. -/
theorem furnish_of_directory (h : w.found? output = some .directory) :
    w.files.furnish (w.trail output.parent) = w.files :=
  Tree.furnish_of_directories (forall_trail_of_found? (Workspace.found?_parent_of_directory h))

/-- A check of the output that fails leaves the directories of the way to it. -/
theorem ChecksOutput.eq_furnish {e : GuardError} {t : Tree} (hf : w.Fits output)
    (h : ChecksOutput w output (.ok (.error e)) t) :
    t = w.files.furnish (w.trail output.parent) ∧
      (w.found? output = some .directory ∨ w.IsBlocked output) := by
  cases h with
  | directory hd => exact ⟨(furnish_of_directory hd).symm, .inl hd⟩
  | notCreated _ hc =>
    rcases create_cases hf hc with ⟨hb, -, ht⟩ | ⟨-, hr, -⟩
    · exact ⟨ht, .inr hb⟩
    · cases hr

theorem ChecksOutput.hasFailed {bytes : List UInt8} {e : GuardError} {t : Tree}
    (hi : w.found? input = some (.file bytes)) (hf : w.Fits output)
    (h : ChecksOutput w output (.ok (.error e)) t) : HasFailed w input output e t := by
  obtain ⟨rfl, hwhy⟩ := h.eq_furnish hf
  refine ⟨fun hn => absurd hi (hn bytes), fun _ => ⟨h.code_eq, hwhy, ?_⟩, furnish_of_directory,
    fun hc ht => ?_⟩
  · exact Tree.extends_furnish w.files (w.trail output.parent)
  · rcases hwhy with hd | hb
    · exact furnish_of_directory hd
    · exact Tree.furnish_of_not_turnsBack hc ht hb

theorem ChecksOutput.hasPassed {bytes : List UInt8} {b : Bool} {t : Tree}
    (hi : w.found? input = some (.file bytes)) (hf : w.Fits output)
    (h : ChecksOutput w output (.ok (.ok b)) t) : HasPassed w input output b t := by
  cases h with
  | found hfound =>
    exact ⟨⟨bytes, hi⟩, by simp [hfound], fun _ => rfl, nofun⟩
  | created hn hc =>
    refine ⟨⟨bytes, hi⟩, by simp [Workspace.look_eq_ok hn], nofun, fun _ => ?_⟩
    rcases create_cases hf hc with ⟨-, ⟨x, hr⟩, -⟩ | ⟨-, -, hnew⟩
    · cases hr
    · exact hnew

theorem hasFailed_of_noFile {e : GuardError}
    (hn : ∀ bytes, w.found? input ≠ some (.file bytes))
    (hc : e.code = ExitCode.input.number) : HasFailed w input output e w.files where
  of_noInput _ := ⟨hc, rfl⟩
  of_input := fun ⟨bytes, hb⟩ => absurd hb (hn bytes)
  eq_of_directory _ := rfl
  eq_of_not_turnsBack _ _ := rfl

/-- Paths within the limits are always looked at to the end. -/
theorem ChecksOutput.exists_eq_ok {r : Except Fault (Except GuardError Bool)} {t : Tree}
    (hf : w.Fits output) (h : ChecksOutput w output r t) : ∃ r', r = .ok r' := by
  cases h with
  | fault hl => cases (Workspace.look_of_fits hf).symm.trans hl
  | directory => exact ⟨_, rfl⟩
  | found => exact ⟨_, rfl⟩
  | created => exact ⟨_, rfl⟩
  | notCreated => exact ⟨_, rfl⟩
  | createFault _ hc =>
    rcases create_cases hf hc with ⟨-, ⟨x, hr⟩, -⟩ | ⟨-, hr, -⟩ <;> cases hr

/-- What is there stays, and what is new is told by the answer. -/
theorem remains_of_check (hi : w.Fits input) (ho : w.Fits output) :
    ∃ r t, (check input output).Ends w (.ok r) t ∧
      (∀ q x, w.files.find? q = some x → t.find? q = some x) ∧
      (∀ e, r = .error e → HasFailed w input output e t) ∧
      ∀ b, r = .ok b → HasPassed w input output b t := by
  obtain ⟨x, hx, hin⟩ := checksInput w input
  cases hin with
  | fault hl => cases (Workspace.look_of_fits hi).symm.trans hl
  | @noFile e hn hc =>
    refine ⟨.error e, w.files, hx.bind (.pure _), fun _ _ h => h, ?_, nofun⟩
    rintro _ ⟨⟩
    exact hasFailed_of_noFile hn hc
  | file hfile =>
    obtain ⟨y, t, hy, hout⟩ := checksOutput w output
    obtain ⟨r, rfl⟩ := hout.exists_eq_ok ho
    refine ⟨r, t, hx.bind hy, hout.grows.kept, ?_, ?_⟩
    · rintro e rfl
      exact hout.hasFailed hfile ho
    · rintro b rfl
      exact hout.hasPassed hfile ho

/-- An output with a file in its way is refused, and the directories before this file are there. -/
theorem exists_ends_check_of_isBlocked (hi : ∃ bytes, w.found? input = some (.file bytes))
    (ho : w.Fits output) (hn : w.found? output = none) (hb : w.IsBlocked output) :
    ∃ e, (check input output).Ends w (.ok (.error e))
      (w.files.furnish (w.trail output.parent)) := by
  obtain ⟨bytes, hi⟩ := hi
  obtain ⟨x, hx, hin⟩ := checksInput w input
  cases hin with
  | fault hl => cases (Workspace.look_of_found? hi).symm.trans hl
  | noFile hno => exact absurd hi (hno bytes)
  | file =>
    obtain ⟨y, t, hy, hout⟩ := checksOutput w output
    obtain ⟨r, rfl⟩ := hout.exists_eq_ok ho
    cases r with
    | error e => exact ⟨e, (hout.eq_furnish ho).1 ▸ hx.bind hy⟩
    | ok b =>
      cases hout with
      | found hfound => cases hn.symm.trans hfound
      | created _ hc =>
        rcases create_cases ho hc with ⟨-, ⟨x, hr⟩, -⟩ | ⟨hnot, -⟩
        · cases hr
        · exact absurd hb hnot

/-- One file in the first directory. -/
def oneFile : Workspace where
  files := { entries := [([['m']], .file [])] }

theorem isClosed_oneFile : oneFile.files.IsClosed := by
  intro q e hq
  by_cases hne : q = []
  · rw [hne]
    rfl
  · have hm : q = [['m']] := by
      by_contra hm
      have hb : (q == [['m']]) = false := by simpa using hm
      simp [oneFile, Tree.find?, hne, List.lookup_cons, hb] at hq
    rw [hm]
    rfl

/-- The path of the file. -/
def fileInput : Path := ⟨[], [['m']]⟩

/-- The path `x/../m/o`, which leads through a missing directory and up again to the file. -/
def turningOutput : Path := ⟨[], [['x'], Path.up, ['m'], ['o']]⟩

theorem fits_fileInput : oneFile.Fits fileInput := ⟨by decide, by decide⟩

theorem fits_turningOutput : oneFile.Fits turningOutput := ⟨by decide, by decide⟩

theorem exists_ends_check_turningOutput :
    ∃ e, (check fileInput turningOutput).Ends oneFile (.ok (.error e))
      ⟨[([['m']], .file []), ([['x']], .directory)]⟩ :=
  exists_ends_check_of_isBlocked ⟨[], rfl⟩ fits_turningOutput rfl ⟨[['m']], by decide, [], rfl⟩

/-- The directory `x` is left behind, and the file is as it was. -/
theorem remains_of_check_turningOutput :
    ∃ e t, (check fileInput turningOutput).Ends oneFile (.ok (.error e)) t ∧
      HasFailed oneFile fileInput turningOutput e t ∧
      t.find? [['m']] = some (.file []) ∧ t.find? [['x']] = some .directory := by
  obtain ⟨r, t, ht, hkept, hfailed, -⟩ := remains_of_check fits_fileInput fits_turningOutput
  obtain ⟨e, he⟩ := exists_ends_check_turningOutput
  obtain ⟨hr, rfl⟩ := ht.unique he
  exact ⟨e, _, he, hfailed e (Except.ok.inj hr), hkept _ _ rfl, rfl⟩

/-- So a failed check does not always leave the files as they were. -/
theorem exists_files_ne_of_check :
    ¬ ∀ (w : Workspace) (input output : Path) (e : GuardError) (t : Tree), w.files.IsClosed →
      w.Fits input → w.Fits output → (check input output).Ends w (.ok (.error e)) t →
      t = w.files := by
  intro h
  obtain ⟨e, he⟩ := exists_ends_check_turningOutput
  have heq := h oneFile _ _ e _ isClosed_oneFile fits_fileInput fits_turningOutput he
  exact absurd heq (by decide)

end Guard
end DfaTable
