import DfaTable.Proofs.Attempt
import DfaTable.Proofs.Record.Writing
import DfaTable.Settings.Loading

/-!
# DfaTable.Proofs.Settings.Loading

Loading settings changes no file, and only settings that can be used are loaded.

* `validate_eq_ok_iff`: the checks that settings pass.
* `ends_load_loaded`: what loading comes to, told without the steps of the work.
* `ends_load`: what is loaded has passed the checks.
* `exists_isFor`: such settings have an encoding that text can be written in.
-/

namespace DfaTable

open Files

namespace Settings

/-! ## The checks -/

/-- A name of an encoding that text is written in. -/
def NamesEncoding (name : Text) : Prop :=
  '\x00' ∉ name ∧ ∃ e, Encoding.named name = .encoding e ∧ e ≠ .undefined

end Settings

namespace Draft

open Settings

variable {field : String} {message : Text} {accepts : Text → Bool} {t : WideText} {word : Text}

/-- Only a text without halves is accepted. -/
theorem checkText_eq_ok_iff : (checkText field message accepts t).run = .ok (.ok word) ↔
    t = word.wide ∧ accepts word = true := by
  rw [← WideText.text?_eq_some_iff, ← Option.filter_eq_some_iff]
  unfold checkText
  cases t.text?.filter accepts with
  | none => exact iff_of_false nofun nofun
  | some w =>
    constructor
    · rintro ⟨⟩
      rfl
    · rintro ⟨⟩
      rfl

theorem checkEncoding_eq_ok_iff :
    (checkEncoding t).run = .ok (.ok word) ↔ t = word.wide ∧ NamesEncoding word := by
  rw [← WideText.text?_eq_some_iff]
  unfold checkEncoding
  cases t.text? with
  | none => exact iff_of_false nofun nofun
  | some name =>
    rw [Option.some.injEq]
    dsimp only
    constructor
    · intro h
      split at h
      · cases h
      · next hn =>
        split at h
        · cases h
        · next e hne he =>
          cases h
          exact ⟨rfl, by simpa using hn, e, he, hne⟩
        · cases h
        · cases h
    · rintro ⟨rfl, hn, e, he, hne⟩
      simp only [List.contains_iff_mem, hn, if_false, he]
      cases e with
      | undefined => exact absurd rfl hne
      | _ => rfl

/-- Only the draft of settings is accepted that can be used, and it is taken as it is. -/
theorem validate_eq_ok_iff {d : Draft} {s : Settings} : d.validate.run = .ok (.ok s) ↔
    d = s.draft ∧ s.output.existing ∈ existingPolicies ∧ s.logging.level.lower ∈ levels ∧
      s.logging.format.lower ∈ formats ∧ (checkExitCode s.usageExitCode).run = .ok (.ok ()) ∧
      NamesEncoding s.output.encoding := by
  unfold validate
  simp only [Attempt.run_bind_eq_ok_iff, checkText_eq_ok_iff, checkEncoding_eq_ok_iff,
    List.contains_iff_mem]
  constructor
  · rintro ⟨existing, ⟨he, hpolicy⟩, level, ⟨hl, hlevel⟩, format, ⟨hf, hformat⟩, u, hn, encoding,
      ⟨hc, hnames⟩, hs⟩
    cases hs
    obtain ⟨code, level', format', existing', encoding', isAtomic, directory⟩ := d
    dsimp only at he hl hf hc
    subst he hl hf hc
    exact ⟨rfl, hpolicy, hlevel, hformat, hn, hnames⟩
  · rintro ⟨rfl, hpolicy, hlevel, hformat, hn, hnames⟩
    exact ⟨_, ⟨rfl, hpolicy⟩, _, ⟨rfl, hlevel⟩, _, ⟨rfl, hformat⟩, (), hn, _, ⟨rfl, hnames⟩, rfl⟩

/-- Settings that pass the checks have an encoding that text can be written in. -/
theorem exists_isFor {d : Draft} {s : Settings} (h : d.validate.run = .ok (.ok s)) :
    ∃ e, s.output.IsFor e := by
  obtain ⟨-, -, -, -, -, hn, e, he, hu⟩ := validate_eq_ok_iff.1 h
  exact ⟨e, he, hu, hn⟩

end Draft

namespace Settings

/-! ## Loading -/

variable {w : Workspace}

theorem ends_settle {α : Type} (a : Check α) : (settle a).Ends w a.run w.files := by
  unfold settle
  cases a.run with
  | error f => exact .throw f
  | ok outcome => exact .pure outcome

/-- The error of settings that are not in a file that can be read. -/
def fileError (t : Trouble) : SettingsError :=
  { field := "file".toList, message := "Failed to read config file: ".toList ++ t.message }

/-- What trouble with a file breaks off has an error instead. -/
def answered {α : Type} (a : Check α) : Check α :=
  match a.run with
  | .error (.file t) => throw (fileError t)
  | _ => a

/-- The settings in what is at a path. -/
def ofEntry (p : Path) : Entry → Check Draft
  | .file bytes => answered (ofBytes bytes)
  | .directory => throw (fileError { refusal := .isDirectory, path := p.write })

theorem ends_ofFile {p : Path} {e : Entry} (h : w.look p = .ok (some e)) :
    (ofFile p).Ends w (ofEntry p e).run w.files := by
  have hi := ends_isThere w p
  have hx := ends_read w p
  rw [h] at hi
  refine hi.bind ?_
  cases e with
  | directory =>
    obtain ⟨q, hq, hf⟩ := Workspace.found?_eq_some_iff.1 (Workspace.look_eq_ok h)
    rw [bytesAt, hq] at hx
    dsimp only at hx
    rw [hf] at hx
    exact hx.bind_error.tryCatch_error (.pure _)
  | file bytes =>
    rw [bytesAt_of_found? (Workspace.look_eq_ok h)] at hx
    have hs : Work.Ends (do settle (ofBytes (← read p))) w (ofBytes bytes).run w.files :=
      hx.bind (ends_settle _)
    show Work.Ends _ w (answered (ofBytes bytes)).run w.files
    unfold answered
    cases hr : (ofBytes bytes).run with
    | ok a =>
      rw [hr] at hs
      rw [hr]
      exact hs.tryCatch
    | error f =>
      rw [hr] at hs
      cases f with
      | file t => exact hs.tryCatch_error (.pure _)
      | _ =>
        rw [hr]
        exact hs.tryCatch_error (.throw _)

/-- The settings of a draft that is made first. -/
def checked (a : Check Draft) : Check Settings := do (← a).validate

/-- What is done with settings that were found. -/
theorem ends_checked (w : Workspace) (found : Except SettingsError Draft) :
    (match found with
      | .error e => return .error e
      | .ok d => settle d.validate : Work (Except SettingsError Settings)).Ends w
      (checked (ExceptT.mk (.ok found))).run w.files := by
  cases found with
  | error e => exact .pure _
  | ok d => exact ends_settle d.validate

/-- The settings of a directory with this at the path of its file. -/
def ofDirectory (directory : Path) : Option Entry → Check Draft
  | none => return ({} : Settings).draft
  | some e => do
    let d ← ofEntry (directory.child fileName) e
    return { d with directory := some directory.write }

/-- What the settings of a directory are loaded to. -/
def loaded (w : Workspace) (directory : Path) : Except Fault (Except SettingsError Settings) := do
  let e? ← w.look (directory.child fileName)
  (checked (ofDirectory directory e?)).run

theorem ends_load_loaded (w : Workspace) (directory : Path) :
    (load directory).Ends w (loaded w directory) w.files := by
  have hi := ends_isThere w (directory.child fileName)
  unfold load loaded
  cases hl : w.look (directory.child fileName) with
  | error f =>
    rw [hl] at hi
    exact hi.bind_error
  | ok e? =>
    rw [hl] at hi
    cases e? with
    | none => exact hi.bind (ends_checked w (.ok ({} : Settings).draft))
    | some e =>
      have hx := ends_ofFile hl
      refine hi.bind ?_
      show Work.Ends _ w (checked (do
        let d ← ofEntry (directory.child fileName) e
        return { d with directory := some directory.write })).run w.files
      unfold checked
      rw [ExceptT.run_bind, ExceptT.run_bind]
      cases hr : (ofEntry (directory.child fileName) e).run with
      | error f =>
        rw [hr] at hx
        exact hx.bind_error
      | ok found =>
        rw [hr] at hx
        have hc := ends_checked w (found.map fun d => { d with directory := some directory.write })
        cases found with
        | error e => exact hx.bind hc
        | ok d => exact hx.bind hc

/-- Settings that were loaded have passed the checks. -/
theorem ends_load (w : Workspace) (directory : Path) :
    ∃ r, (load directory).Ends w r w.files ∧
      ∀ s, r = .ok (.ok s) → ∃ d : Draft, d.validate.run = .ok (.ok s) := by
  refine ⟨_, ends_load_loaded w directory, fun s h => ?_⟩
  unfold loaded at h
  cases hl : w.look (directory.child fileName) with
  | error f =>
    rw [hl] at h
    cases h
  | ok e? =>
    rw [hl] at h
    obtain ⟨d, -, hs⟩ := Attempt.run_bind_eq_ok_iff.1 h
    exact ⟨d, hs⟩

end Settings
end DfaTable
