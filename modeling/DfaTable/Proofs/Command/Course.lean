import DfaTable.Command
import DfaTable.Proofs.Guard.Checks
import DfaTable.Proofs.Settings.Loading
import DfaTable.Proofs.Table.Control

/-!
# DfaTable.Proofs.Command.Course

The course of a run. Each part of it comes to one of a few outcomes, and each outcome has a rule
that says when it is reached and which files it leaves.

* `ChecksPaths`, `Converts`, `Runs`: the rules for the checks, the conversion and the whole run.
* `ends_checkPaths`, `ends_convert`, `runs`: no other outcome is possible.
* `files_run`: a run that does not have both of its paths leaves all files alone.
-/

namespace DfaTable

open Files

namespace Automaton

variable {w : Workspace} {p : Path} {bytes : List UInt8}

theorem ends_bytesOfFile (h : w.found? p = some (.file bytes)) :
    (bytesOfFile p).Ends w (.ok (.ok bytes)) w.files := by
  have hread := ends_read w p
  rw [bytesAt_of_found? h] at hread
  exact (hread.bind (.pure (Except.ok bytes))).tryCatch

/-- Loading from a file that is there comes to what its bytes are loaded to. -/
theorem ends_ofFile (h : w.found? p = some (.file bytes)) :
    (ofFile p).Ends w
      ((loadSource p.write (.bytes bytes)).mapError fun o => .tooManyDigits o.digits) w.files := by
  refine (ends_bytesOfFile h).bind ?_
  show (ofFileBytes p bytes).Ends w _ _
  unfold ofFileBytes
  cases loadSource p.write (.bytes bytes) with
  | error o => exact .throw _
  | ok outcome =>
    cases outcome with
    | error x => exact .bind (.onJournal _) (.pure _)
    | ok a => exact .bind (.onJournal _) (.pure _)

end Automaton

namespace Command

variable {w : Workspace} {isDry : Bool} {input output : Path} {s : OutputSettings} {t : Tree}

/-! ## The checks -/

/-- The files with which a conversion begins after its checks. -/
inductive Ready (w : Workspace) (isDry : Bool) (output : Path) : Tree → Prop where
  | dry : isDry = true → Ready w isDry output w.files
  | real {wasThere : Bool} {t : Tree} : isDry = false →
      Guard.ChecksOutput w output (.ok (.ok wasThere)) t → Ready w isDry output t

/-- What the checks of a run come to. -/
inductive ChecksPaths (w : Workspace) (isDry : Bool) (input output : Path) :
    Except Fault (Except GuardError Unit) → Tree → Prop where
  | inputFault {f : Fault} : w.look input = .error f →
      ChecksPaths w isDry input output (.error f) w.files
  | noInput {g : GuardError} : (∀ bytes, w.found? input ≠ some (.file bytes)) →
      g.code = ExitCode.input.number → ChecksPaths w isDry input output (.ok (.error g)) w.files
  | outputFault {bytes : List UInt8} {f : Fault} {t : Tree} : isDry = false →
      w.found? input = some (.file bytes) → Guard.ChecksOutput w output (.error f) t →
      ChecksPaths w isDry input output (.error f) t
  | noOutput {bytes : List UInt8} {g : GuardError} {t : Tree} : isDry = false →
      w.found? input = some (.file bytes) → Guard.ChecksOutput w output (.ok (.error g)) t →
      ChecksPaths w isDry input output (.ok (.error g)) t
  | ready {bytes : List UInt8} {t : Tree} : w.found? input = some (.file bytes) →
      Ready w isDry output t → ChecksPaths w isDry input output (.ok (.ok ())) t

theorem ends_checkPaths (w : Workspace) (isDry : Bool) (input output : Path) :
    ∃ r t, (checkPaths isDry input output).Ends w r t ∧ ChecksPaths w isDry input output r t := by
  obtain ⟨x, hx, hin⟩ := Guard.checksInput w input
  unfold checkPaths
  cases isDry with
  | true =>
    cases hin with
    | fault hl => exact ⟨_, _, hx.bind_error, .inputFault hl⟩
    | noFile hn hc => exact ⟨_, _, hx.bind (.pure _), .noInput hn hc⟩
    | file hf => exact ⟨_, _, hx.bind (.pure _), .ready hf (.dry rfl)⟩
  | false =>
    cases hin with
    | fault hl => exact ⟨_, _, hx.bind_error.bind_error, .inputFault hl⟩
    | @noFile g hn hc =>
      have hcheck : (Guard.check input output).Ends w (.ok (.error g)) w.files := hx.bind (.pure _)
      exact ⟨_, _, hcheck.bind (.pure _), .noInput hn hc⟩
    | file hf =>
      obtain ⟨y, t, hy, hout⟩ := Guard.checksOutput w output
      have hcheck : (Guard.check input output).Ends w y t := hx.bind hy
      cases y with
      | error f => exact ⟨_, t, hcheck.bind_error, .outputFault rfl hf hout⟩
      | ok y =>
        cases y with
        | error g => exact ⟨_, t, hcheck.bind (.pure _), .noOutput rfl hf hout⟩
        | ok wasThere => exact ⟨_, t, hcheck.bind (.pure _), .ready hf (.real rfl hout)⟩

theorem Ready.grows (h : Ready w isDry output t) : Tree.Grows (w.Makes output) w.files t := by
  cases h with
  | dry => exact .refl _
  | real _ hout => exact hout.grows

/-- The checks make nothing in a dry run, nor where something is at the output path. -/
theorem Ready.eq (h : Ready w isDry output t)
    (hq : isDry = true ∨ ∃ e, w.found? output = some e) : t = w.files := by
  cases h with
  | dry => rfl
  | real hd hout =>
    rcases hq with hq | ⟨e, he⟩
    · rw [hd] at hq
      cases hq
    · cases hout with
      | found => rfl
      | created hn => cases (Workspace.look_of_found? he).symm.trans hn

theorem ChecksPaths.grows {r : Except Fault (Except GuardError Unit)}
    (h : ChecksPaths w isDry input output r t) : Tree.Grows (w.Makes output) w.files t := by
  cases h with
  | inputFault => exact .refl _
  | noInput => exact .refl _
  | outputFault _ _ hout => exact hout.grows
  | noOutput _ _ hout => exact hout.grows
  | ready _ hr => exact hr.grows

/-! ## The conversion -/

/-- What the conversion of a document comes to. -/
inductive Converts (w : Workspace) (isDry : Bool) (input output : Path) (s : OutputSettings) :
    Except Fault Ending → Tree → Prop where
  | unchecked {f : Fault} {t : Tree} : ChecksPaths w isDry input output (.error f) t →
      Converts w isDry input output s (.error f) t
  | refused {g : GuardError} {t : Tree} : ChecksPaths w isDry input output (.ok (.error g)) t →
      Converts w isDry input output s (.ok (.failed g.code g.write)) t
  | oversized {bytes : List UInt8} {o : Oversized} {t : Tree} :
      w.found? input = some (.file bytes) → Ready w isDry output t →
      loadSource input.write (.bytes bytes) = .error o →
      Converts w isDry input output s (.error (.tooManyDigits o.digits)) t
  | unloaded {bytes : List UInt8} {x : LoadError} {t : Tree} :
      w.found? input = some (.file bytes) → Ready w isDry output t →
      loadSource input.write (.bytes bytes) = .ok (.error x) →
      Converts w isDry input output s (.ok (.failed ExitCode.input.number x.write)) t
  | dry {bytes : List UInt8} {a : Automaton} : isDry = true →
      w.found? input = some (.file bytes) →
      loadSource input.write (.bytes bytes) = .ok (.ok a) →
      Converts w isDry input output s
        (.ok (.succeeded "dry_run" "Would write TCDF file" output (.ofAutomaton a))) w.files
  | written {bytes : List UInt8} {a : Automaton} {n : Nat} {t u : Tree} : isDry = false →
      w.found? input = some (.file bytes) → Ready w isDry output t →
      loadSource input.write (.bytes bytes) = .ok (.ok a) →
      (Record.writeAll output (Table.ofAutomaton a).records s).Ends (w.on t) (.ok n) u →
      Converts w isDry input output s
        (.ok (.succeeded (if (Table.ofAutomaton a).warnings.isEmpty then "success" else "partial")
          "conversion done." output (.ofAutomaton a))) u
  | unwritten {bytes : List UInt8} {a : Automaton} {f : Fault} {m : Text} {t u : Tree} :
      isDry = false → w.found? input = some (.file bytes) → Ready w isDry output t →
      loadSource input.write (.bytes bytes) = .ok (.ok a) →
      (Record.writeAll output (Table.ofAutomaton a).records s).Ends (w.on t) (.error f) u →
      isWriteFault f = true →
      Converts w isDry input output s (.ok (.failed ExitCode.output.number m)) u
  | brokenOff {bytes : List UInt8} {a : Automaton} {f : Fault} {t u : Tree} :
      isDry = false → w.found? input = some (.file bytes) → Ready w isDry output t →
      loadSource input.write (.bytes bytes) = .ok (.ok a) →
      (Record.writeAll output (Table.ofAutomaton a).records s).Ends (w.on t) (.error f) u →
      isWriteFault f = false → Converts w isDry input output s (.error f) u

theorem ends_writeTable {p : Path} {T : Table} {r : Except Fault Nat}
    (h : (Record.writeAll p T.records s).Ends w r t) :
    (writeTable p T s).Ends w
      (match r with
        | .ok _ => .ok none
        | .error f => if isWriteFault f then .ok (some f) else .error f) t := by
  cases r with
  | ok n => exact (h.bind (.pure none)).tryCatch
  | error f =>
    refine h.bind_error.tryCatch_error ?_
    dsimp only
    split
    · exact .pure _
    · exact .throw f

/-- The rest of a conversion after the checks. -/
theorem ends_compile {e : Encoding} {bytes : List UInt8} {a : Automaton} (h : s.IsFor e)
    (hf : w.found? input = some (.file bytes)) (hr : Ready w isDry output t)
    (hl : loadSource input.write (.bytes bytes) = .ok (.ok a)) :
    ∃ r u, (compile isDry output s a).Ends (w.on t) r u ∧ Converts w isDry input output s r u := by
  unfold compile
  cases hr with
  | dry hd =>
    subst hd
    exact ⟨_, _, .bind (.onJournal _) (.pure _), .dry rfl hf hl⟩
  | real hd hout =>
    subst hd
    obtain ⟨r, u, hw, -⟩ := Record.ends_writeAll h (isShort_of_loaded hl) (w.on t) output
    have ht := ends_writeTable hw
    cases r with
    | ok n =>
      exact ⟨_, u, .bind (.onJournal _) (ht.bind (.bind (.onJournal _) (.pure _))),
        .written rfl hf (.real rfl hout) hl hw⟩
    | error f =>
      cases hfault : isWriteFault f with
      | true =>
        dsimp only at ht
        rw [if_pos hfault] at ht
        exact ⟨_, u, .bind (.onJournal _) (ht.bind (.bind (.onJournal _) (.pure _))),
          .unwritten rfl hf (.real rfl hout) hl hw hfault⟩
      | false =>
        dsimp only at ht
        rw [if_neg (by simp [hfault])] at ht
        exact ⟨_, u, .bind (.onJournal _) ht.bind_error,
          .brokenOff rfl hf (.real rfl hout) hl hw hfault⟩

theorem ends_convert {e : Encoding} (h : s.IsFor e) (w : Workspace) (isDry : Bool)
    (input output : Path) :
    ∃ r t, (convert isDry input output s).Ends w r t ∧ Converts w isDry input output s r t := by
  obtain ⟨x, t, hx, hc⟩ := ends_checkPaths w isDry input output
  unfold convert
  cases x with
  | error f => exact ⟨_, t, .bind (.onJournal _) hx.bind_error, .unchecked hc⟩
  | ok x =>
    cases x with
    | error g => exact ⟨_, t, .bind (.onJournal _) (hx.bind (.pure _)), .refused hc⟩
    | ok u =>
      cases hc with
      | ready hf hr =>
        have hload := Automaton.ends_ofFile (Workspace.found?_mono (t := t) hr.grows.kept hf)
        cases hl : loadSource input.write (.bytes _) with
        | error o =>
          rw [hl] at hload
          exact ⟨_, t, .bind (.onJournal _) (hx.bind hload.bind_error), .oversized hf hr hl⟩
        | ok y =>
          rw [hl] at hload
          cases y with
          | error x =>
            exact ⟨_, t, .bind (.onJournal _) (hx.bind (hload.bind (.pure _))),
              .unloaded hf hr hl⟩
          | ok a =>
            obtain ⟨r, u, hu, hcv⟩ := ends_compile h hf hr hl
            exact ⟨r, u, .bind (.onJournal _) (hx.bind (hload.bind hu)), hcv⟩

/-! ## The run -/

section
variable {α : Type} {m : Work α} {r : Except Fault α}

theorem ends_withDocument (name : Text) (h : m.Ends w r t) : (withDocument name m).Ends w r t := by
  refine .bind (.onJournal _) ?_
  cases r with
  | ok a => exact h.tryCatch.bind (.bind (.onJournal _) (.pure a))
  | error f => exact (h.tryCatch_error (.bind (.onJournal _) (.throw f))).bind_error

end

variable {arguments : List Text} {o : Options}

/-- The arguments ask for a run with these options. -/
def Asks (arguments : List Text) (o : Options) : Prop :=
  (Request.ofArguments arguments).run = .ok (.ok (.run o))

/-- The end of a run that work has come to. -/
def endOfRun : Except Fault Ending → Ending
  | .ok ending => ending
  | .error _ => { code := ExitCode.fault.number }

theorem run_of_ends {r : Except Fault Ending} (h : (runArguments arguments).Ends w r t) :
    (run arguments w).1 = endOfRun r ∧ (run arguments w).2.files = t := by
  obtain ⟨j, h⟩ := h w.journal
  unfold run
  rw [h]
  cases r <;> exact ⟨rfl, rfl⟩

/-- The directory from which the settings of a run are loaded. -/
def Options.directory (o : Options) : Path := o.config.getD Settings.usualDirectory

/-- Loading the settings of a run comes to this. -/
def Loaded (w : Workspace) (o : Options) (r : Except Fault (Except SettingsError Settings)) :
    Prop :=
  (Settings.load o.directory).Ends w r w.files

/-- What a run with both of its paths comes to. -/
inductive Runs (w : Workspace) (o : Options) (input output : Path) : Ending → Tree → Prop where
  | broken {f : Fault} : Loaded w o (.error f) →
      Runs w o input output { code := ExitCode.fault.number } w.files
  | unusable {x : SettingsError} {m : Text} : Loaded w o (.ok (.error x)) →
      Runs w o input output { code := ExitCode.settings.number, message := m } w.files
  | converted {s : Settings} {r : Except Fault Ending} {t : Tree} : Loaded w o (.ok (.ok s)) →
      (∃ e, s.output.IsFor e) → Converts w o.isDry input output s.output r t →
      Runs w o input output (endOfRun r) t

theorem runs (h : Asks arguments o) (hi : o.input = some input) (ho : o.output = some output)
    (w : Workspace) :
    Runs w o input output (run arguments w).1 (run arguments w).2.files := by
  suffices hs : ∃ r t, (runOptions o).Ends w r t ∧ Runs w o input output (endOfRun r) t by
    obtain ⟨r, t, he, hr⟩ := hs
    have hrun : (runArguments arguments).Ends w r t := by
      unfold runArguments
      rw [h]
      exact he
    obtain ⟨h₁, h₂⟩ := run_of_ends hrun
    rwa [h₁, h₂]
  obtain ⟨x, hx, hv⟩ := Settings.ends_load w o.directory
  unfold runOptions
  rw [hi, ho]
  cases x with
  | error f => exact ⟨_, _, hx.bind_error, .broken hx⟩
  | ok x =>
    cases x with
    | error x => exact ⟨_, _, hx.bind (.pure _), .unusable hx⟩
    | ok s =>
      obtain ⟨d, hd⟩ := hv s rfl
      obtain ⟨e, he⟩ := Draft.exists_isFor hd
      obtain ⟨r, t, hc, hr⟩ := ends_convert he w o.isDry input output
      exact ⟨r, t, hx.bind (.bind (.onJournal _) (ends_withDocument _ hc)),
        .converted hx ⟨e, he⟩ hr⟩

/-- Without both paths nothing is converted. -/
theorem files_run (h : ∀ o input output, Asks arguments o → o.input = some input →
    o.output ≠ some output) (w : Workspace) : (run arguments w).2.files = w.files := by
  suffices hs : ∃ r, (runArguments arguments).Ends w r w.files by
    obtain ⟨r, hr⟩ := hs
    exact (run_of_ends hr).2
  unfold runArguments
  cases hr : (Request.ofArguments arguments).run with
  | error f => exact ⟨_, .throw f⟩
  | ok x =>
    cases x with
    | error p => exact ⟨_, .pure _⟩
    | ok q =>
      cases q with
      | help => exact ⟨_, .pure _⟩
      | version => exact ⟨_, .pure _⟩
      | run o =>
        obtain ⟨x, hx, -⟩ := Settings.ends_load w o.directory
        show ∃ r, (runOptions o).Ends w r w.files
        unfold runOptions
        cases x with
        | error f => exact ⟨_, hx.bind_error⟩
        | ok settings =>
          cases hi : o.input with
          | none => exact ⟨_, hx.bind (.pure _)⟩
          | some input =>
            cases ho : o.output with
            | none => exact ⟨_, hx.bind (.pure _)⟩
            | some output => exact absurd ho (h o input output hr hi)

end Command
end DfaTable
