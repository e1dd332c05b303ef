import DfaTable.Proofs.Command.Course
import DfaTable.Proofs.Settings.Faults

/-!
# DfaTable.Proofs.Command.Usage

A run that lacks a path. It is meant to show the usage whatever its settings are; it does so unless
loading them is broken off.

* `ends_usage`: what such a run comes to.
* `showsUsage_iff`: it shows the usage just where loading has an answer.
-/

namespace DfaTable
namespace Command

open Text Journal

variable {w : Workspace} {arguments : List Text} {o : Options} {f : Fault}

theorem loaded_iff {r : Except Fault (Except SettingsError Settings)} :
    Loaded w o r ↔ r = Settings.loaded w o.directory := by
  constructor
  · intro h
    exact (h.unique (Settings.ends_load_loaded w o.directory)).1
  · rintro rfl
    exact Settings.ends_load_loaded w o.directory

theorem ends_usage (h : Asks arguments o) (hp : o.input = none ∨ o.output = none)
    (w : Workspace) :
    (runArguments arguments).Ends w ((Settings.loaded w o.directory).map showUsage) w.files := by
  unfold runArguments
  rw [h]
  show (runOptions o).Ends w _ _
  have hload := Settings.ends_load_loaded w o.directory
  have husage : runOptions o = Settings.load o.directory >>= fun settings =>
      return showUsage settings := by
    unfold runOptions
    rcases hp with hp | hp <;> rw [hp]
    · rfl
    · cases o.input <;> rfl
  rw [husage]
  exact hload.map showUsage

/-- The event of a run that was broken off. -/
def faultEvent (f : Fault) : Event :=
  { severity := .error, source := source.toList, name := "cli_error".toList
    fields := [textField "error" f.message] }

theorem run_of_ends_error {t : Files.Tree} (h : (runArguments arguments).Ends w (.error f) t) :
    (run arguments w).1 = { code := ExitCode.fault.number } ∧
    (run arguments w).2.journal.events.head? = some (faultEvent f) := by
  obtain ⟨j, h⟩ := h w.journal
  unfold run
  rw [h]
  exact ⟨rfl, rfl⟩

/-- The usage, with the exit code of the settings, or the usual one if there are none. -/
structure ShowsUsage (w : Workspace) (o : Options) (e : Ending) : Prop where
  output : e.output = usageLine
  code_of_loaded : ∀ s, Loaded w o (.ok (.ok s)) → e.code = s.usageExitCode
  code_of_not_loaded : (∀ s, ¬Loaded w o (.ok (.ok s))) → e.code = 0

theorem showsUsage_of_loaded {settings : Except SettingsError Settings}
    (h : Settings.loaded w o.directory = .ok settings) :
    ShowsUsage w o (showUsage settings) := by
  cases settings with
  | error e =>
    refine ⟨rfl, fun s hs => ?_, fun _ => rfl⟩
    rw [loaded_iff, h] at hs
    cases hs
  | ok s =>
    refine ⟨rfl, fun s' hs => ?_, fun hn => ?_⟩
    · rw [loaded_iff, h] at hs
      cases hs
      rfl
    · exact absurd (loaded_iff.2 h.symm) (hn s)

theorem not_showsUsage_fault : ¬ShowsUsage w o { code := ExitCode.fault.number } := by
  intro h
  exact absurd h.output (by decide)

theorem run_of_breaks (h : Asks arguments o) (hp : o.input = none ∨ o.output = none)
    (hb : Settings.Breaks w o.directory f) :
    (run arguments w).1 = { code := ExitCode.fault.number } ∧
    (run arguments w).2.journal.events.head? = some (faultEvent f) := by
  have he := ends_usage h hp w
  rw [Settings.loaded_eq_error_iff.2 hb] at he
  exact run_of_ends_error he

/-- A run without both paths changes no file. It shows the usage, with the exit code of the settings
if they are accepted and 0 if they are not, unless loading them is broken off: then it ends as a
fault, shows nothing, and the fault is the last event. -/
theorem showsUsage_iff (h : Asks arguments o) (hp : o.input = none ∨ o.output = none)
    (w : Workspace) :
    (ShowsUsage w o (run arguments w).1 ↔ ¬∃ f, Settings.Breaks w o.directory f) ∧
    (∀ f, Settings.Breaks w o.directory f →
      (run arguments w).1 = { code := ExitCode.fault.number } ∧
      (run arguments w).2.journal.events.head? = some (faultEvent f)) ∧
    (run arguments w).2.files = w.files := by
  have he := ends_usage h hp w
  obtain ⟨hend, hfiles⟩ := run_of_ends he
  refine ⟨⟨?_, ?_⟩, fun f hb => run_of_breaks h hp hb, hfiles⟩
  · rintro hs ⟨f, hb⟩
    rw [(run_of_breaks h hp hb).1] at hs
    exact not_showsUsage_fault hs
  · intro hn
    rw [hend]
    cases hl : Settings.loaded w o.directory with
    | error f => exact absurd ⟨f, Settings.loaded_eq_error_iff.1 hl⟩ hn
    | ok settings => exact showsUsage_of_loaded hl

/-- Nothing is there, so the settings are the usual ones. -/
theorem showsUsage_iff_empty : Asks [] {} ∧ ShowsUsage {} {} (run [] {}).1 := by
  have ha : Asks [] {} := rfl
  have hloaded : Settings.loaded {} (Options.directory {}) = .ok (.ok {}) := rfl
  refine ⟨ha, (showsUsage_iff ha (.inl rfl) {}).1.2 ?_⟩
  rintro ⟨f, hb⟩
  cases hloaded.symm.trans (Settings.loaded_eq_error_iff.2 hb)

/-- Settings in a short file that is not UTF-8 keep the usage from being shown. -/
theorem run_of_not_utf8 {bytes : List UInt8} {b : Encoding.Utf8.Broken} (h : Asks arguments o)
    (hp : o.input = none ∨ o.output = none)
    (hf : w.found? (o.directory.child Settings.fileName) = some (.file bytes))
    (hl : bytes.length ≤ Files.pieceSize) (hb : Encoding.Utf8.decode bytes = .error b) :
    (run arguments w).1 = { code := ExitCode.fault.number } := by
  obtain ⟨flaw, hflaw⟩ := Settings.exists_breaksOff_of_decode hl hb
  exact (run_of_breaks h hp (.file hf hflaw)).1

/-- The byte 0xFF, which is not UTF-8, where settings are looked for. -/
def notUtf8 : Workspace where
  files := { entries := [(["config".toList], .directory),
    (["config".toList, "defaults.yaml".toList], .file [0xFF])] }

theorem exists_not_showsUsage : ¬ ∀ (arguments : List Text) (o : Options) (w : Workspace),
    Asks arguments o → o.input = none ∨ o.output = none → ShowsUsage w o (run arguments w).1 := by
  intro hall
  have ha : Asks [] {} := rfl
  have hf : notUtf8.found? ((Options.directory {}).child Settings.fileName) =
      some (.file [0xFF]) := by decide
  have hdecode : Encoding.Utf8.decode [0xFF] = .error ⟨.start, 0, 0, 0xFF⟩ := by
    simp [Encoding.Utf8.decode, Encoding.Utf8.decodeFrom, Encoding.Utf8.first, Encoding.Utf8.lead?]
  have hs := hall [] {} notUtf8 ha (.inl rfl)
  rw [run_of_not_utf8 ha (.inl rfl) hf (by decide) hdecode] at hs
  exact not_showsUsage_fault hs

end Command
end DfaTable
