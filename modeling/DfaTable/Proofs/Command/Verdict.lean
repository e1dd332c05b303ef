import DfaTable.Proofs.Automaton.Loading
import DfaTable.Proofs.Command.Failure

/-!
# DfaTable.Proofs.Command.Verdict

The exit code of a run with both of its paths. `verdict` looks at what can be wrong in a fixed
order, and the first thing that is wrong decides.

* `Converts.code_eq`: for the conversion, where the settings are loaded.
* `code_eq_verdict`: for the run, with what it prints.
-/

namespace DfaTable

open Files Markup

/-- No number in a document has more digits than can be read. -/
structure Markup.Source.HasShortNumbers (s : Source) : Prop where
  ids : ∀ e ∈ s.states, ∀ k, ¬ IsTooLong (State.idIn e) k
  sources : ∀ e ∈ s.transitions, ∀ k, ¬ IsTooLong (Transition.fromIn e) k
  targets : ∀ e ∈ s.transitions, ∀ k, ¬ IsTooLong (Transition.toIn e) k

theorem Markup.Source.HasShortNumbers.loadSource_ne_error {s : Source} (h : s.HasShortNumbers)
    (path : Text) (o : Oversized) : loadSource path s ≠ .error o := by
  obtain ⟨r, hr⟩ := exists_loads path s
  rw [hr.eq]
  cases hr with
  | longState _ hs _ hk => exact absurd hk (h.ids _ (by simp [hs]) _)
  | longTransition _ _ ht _ hk =>
    rcases hk with hk | ⟨-, hk⟩
    · exact absurd hk (h.sources _ (by simp [ht]) _)
    · exact absurd hk (h.targets _ (by simp [ht]) _)
  | noRoot => simp
  | faultyStates => simp
  | faultyTransitions => simp
  | loaded => simp

namespace Command

variable {w : Workspace} {isDry : Bool} {input output : Path} {s : OutputSettings} {t u : Tree}

/-! ## What can be wrong -/

/-- There is no file at the input path. -/
def HasNoInput (w : Workspace) (input : Path) : Prop :=
  ∀ bytes, w.found? input ≠ some (.file bytes)

/-- There is no file at the output path, and there cannot be one. -/
def HasNoOutput (w : Workspace) (output : Path) : Prop :=
  w.found? output = some .directory ∨ w.found? output = none ∧ w.IsBlocked output

/-- The file system refuses the bytes of the input, or they are no document of an automaton. -/
def IsUnloaded (w : Workspace) (input : Path) : Prop :=
  (∃ x, (Automaton.bytesOfFile input).Ends w (.ok (.error x)) w.files) ∨
    ∃ bytes x, w.found? input = some (.file bytes) ∧
      loadSource input.write (.bytes bytes) = .ok (.error x)

/-- The table of the input cannot be written to the files that the checks leave. -/
def IsUnwritten (w : Workspace) (input output : Path) (s : OutputSettings) : Prop :=
  ∃ bytes a t f u, w.found? input = some (.file bytes) ∧
    loadSource input.write (.bytes bytes) = .ok (.ok a) ∧ Ready w false output t ∧
    (Record.writeAll output (Table.ofAutomaton a).records s).Ends (w.on t) (.error f) u

open Classical in
/-- The exit code of a conversion: the first thing that is wrong decides it. -/
noncomputable def conversionCode (w : Workspace) (isDry : Bool) (input output : Path)
    (s : OutputSettings) : ExitCode :=
  if HasNoInput w input then .input
  else if isDry = false ∧ HasNoOutput w output then .output
  else if IsUnloaded w input then .input
  else if isDry = true then .success
  else if IsUnwritten w input output s then .output
  else .success

theorem Ready.unique (h : Ready w isDry output t) (g : Ready w isDry output u) : t = u := by
  cases h with
  | dry hd =>
    cases g with
    | dry => rfl
    | real hr => cases hd.symm.trans hr
  | real hr hout =>
    cases g with
    | dry hd => cases hd.symm.trans hr
    | real _ hout' =>
      cases hout with
      | found hf => exact (hout'.eq_of_file hf).symm
      | created hn hc =>
        cases hout' with
        | found hf => cases (Workspace.look_of_found? hf).symm.trans hn
        | created _ hc' => exact (hc.unique hc').2

theorem Ready.not_hasNoOutput (h : Ready w isDry output t) (hf : w.Fits output) :
    ¬ (isDry = false ∧ HasNoOutput w output) := by
  rintro ⟨hr, hno⟩
  cases h with
  | dry hd => cases hd.symm.trans hr
  | real _ hout =>
    revert hno
    cases hout with
    | found hfile =>
      rintro (hd | ⟨hn, -⟩)
      · cases hd.symm.trans hfile
      · cases hn.symm.trans hfile
    | created hn hc =>
      rintro (hd | ⟨-, hb⟩)
      · cases (Workspace.look_of_found? hd).symm.trans hn
      · rcases Guard.create_cases hf hc with ⟨-, ⟨x, hx⟩, -⟩ | ⟨hnb, -⟩
        · cases hx
        · exact hnb hb

theorem hasNoOutput_of_refused {g : GuardError} (hf : w.Fits output)
    (h : Guard.ChecksOutput w output (.ok (.error g)) t) : HasNoOutput w output := by
  cases h with
  | directory hd => exact .inl hd
  | notCreated hn hc =>
    refine .inr ⟨Workspace.look_eq_ok hn, ?_⟩
    rcases Guard.create_cases hf hc with ⟨hb, -⟩ | ⟨-, hr, -⟩
    · exact hb
    · cases hr

/-- Paths within the limits can always be looked at. -/
theorem not_checksPaths_error {f : Fault} (hfi : w.Fits input) (hfo : w.Fits output) :
    ¬ ChecksPaths w isDry input output (.error f) t := by
  intro h
  cases h with
  | inputFault hl => cases (Workspace.look_of_fits hfi).symm.trans hl
  | outputFault _ _ hout =>
    cases hout with
    | fault hl => cases (Workspace.look_of_fits hfo).symm.trans hl
    | createFault _ hc =>
      rcases Guard.create_cases hfo hc with ⟨-, ⟨x, hr⟩, -⟩ | ⟨-, hr, -⟩ <;> cases hr

theorem isWriteFault_of_writes {records : List Record} {e : Encoding} {f : Fault}
    (hf : w.Fits output) (h : Record.Writes w output records s e (.error f) t) :
    isWriteFault f = true := by
  cases h with
  | refused _ hx =>
    obtain ⟨x, rfl⟩ := hx hf
    rfl
  | notReplaced => rfl

theorem not_hasNoInput {bytes : List UInt8} (h : w.found? input = some (.file bytes)) :
    ¬ HasNoInput w input :=
  fun hn => hn bytes h

theorem not_isUnloaded {bytes : List UInt8} {a : Automaton}
    (h : w.found? input = some (.file bytes))
    (hl : loadSource input.write (.bytes bytes) = .ok (.ok a)) : ¬ IsUnloaded w input := by
  rintro (⟨x, hx⟩ | ⟨bytes', x, h', hl'⟩)
  · cases ((Automaton.ends_bytesOfFile h).unique hx).1
  · cases h.symm.trans h'
    cases hl.symm.trans hl'

/-- Each outcome of a conversion has the exit code that the order of the checks gives it. -/
theorem Converts.code_eq {r : Except Fault Ending} (h : Converts w isDry input output s r t)
    (hs : ∃ e, s.IsFor e) (hfi : w.Fits input) (hfo : w.Fits output)
    (hshort : ∀ bytes, w.found? input = some (.file bytes) → (Source.bytes bytes).HasShortNumbers) :
    (endOfRun r).code = (conversionCode w isDry input output s).number := by
  -- An outcome refutes what stands before its own place in the order, and has the code of that place.
  unfold conversionCode
  cases h with
  | unchecked hx => exact absurd hx (not_checksPaths_error hfi hfo)
  | refused hx =>
    cases hx with
    | noInput hn hg =>
      have hn : HasNoInput w input := hn
      rw [if_pos hn]
      exact hg
    | noOutput hr hf hout =>
      rw [if_neg (not_hasNoInput hf), if_pos ⟨hr, hasNoOutput_of_refused hfo hout⟩]
      exact hout.code_eq
  | oversized hf _ hl => exact absurd hl ((hshort _ hf).loadSource_ne_error _ _)
  | unloaded hf hready hl =>
    rw [if_neg (not_hasNoInput hf), if_neg (hready.not_hasNoOutput hfo),
      if_pos (.inr ⟨_, _, hf, hl⟩)]
    rfl
  | dry hd hf hl =>
    rw [if_neg (not_hasNoInput hf), if_neg (Ready.not_hasNoOutput (.dry hd) hfo),
      if_neg (not_isUnloaded hf hl), if_pos hd]
    rfl
  | written hr hf hready hl hw =>
    subst hr
    have hwritten : ¬ IsUnwritten w input output s := by
      rintro ⟨bytes', a', t', f, u, hf', hl', hready', hw'⟩
      cases hf.symm.trans hf'
      cases hl.symm.trans hl'
      cases hready.unique hready'
      cases (hw.unique hw').1
    show ExitCode.success.number = _
    rw [if_neg (not_hasNoInput hf), if_neg (hready.not_hasNoOutput hfo),
      if_neg (not_isUnloaded hf hl), if_neg Bool.false_ne_true, if_neg hwritten]
  | unwritten hr hf hready hl hw =>
    subst hr
    have hunwritten : IsUnwritten w input output s := ⟨_, _, _, _, _, hf, hl, hready, hw⟩
    rw [if_neg (not_hasNoInput hf), if_neg (hready.not_hasNoOutput hfo),
      if_neg (not_isUnloaded hf hl), if_neg Bool.false_ne_true, if_pos hunwritten]
    rfl
  | brokenOff _ _ hready hl hw hfault =>
    -- With an encoding that can be used, writing fails with a fault of writing only.
    obtain ⟨e, he⟩ := hs
    have hwrites := Record.writes_of_ends he (isShort_of_loaded hl) hw
    cases hfault.symm.trans (isWriteFault_of_writes (hfo.on _) hwrites)

/-! ## What is printed -/

/-- The output is one JSON object that begins with this status, and a line end. -/
def Ending.Reports (ending : Ending) (status : String) : Prop :=
  ∃ members, ending.output =
    (Json.object (Ending.member "status" (.text status.toList) :: members)).indented 0 ++ ['\n']

/-- What is printed fits the exit code. -/
structure Ending.IsReport (ending : Ending) : Prop where
  success : ending.code = ExitCode.success.number →
    ending.Reports "dry_run" ∨ ending.Reports "success" ∨ ending.Reports "partial"
  failure : ending.code = ExitCode.input.number ∨ ending.code = ExitCode.output.number →
    ending.Reports "error"

theorem Ending.isReport_of_ne {ending : Ending} (hs : ending.code ≠ ExitCode.success.number)
    (hi : ending.code ≠ ExitCode.input.number) (ho : ending.code ≠ ExitCode.output.number) :
    ending.IsReport where
  success hc := absurd hc hs
  failure hc := hc.elim (absurd · hi) (absurd · ho)

theorem Ending.isReport_failed {code : Int} {m : Text} (h : code ≠ ExitCode.success.number) :
    (failed code m).IsReport where
  success hc := absurd hc h
  failure _ := ⟨_, rfl⟩

theorem Ending.isReport_succeeded {status message : String} {p : Path} {table : Table}
    (h : status = "dry_run" ∨ status = "success" ∨ status = "partial") :
    (succeeded status message p table).IsReport where
  success _ := by
    rcases h with rfl | rfl | rfl
    · exact .inl ⟨_, rfl⟩
    · exact .inr (.inl ⟨_, rfl⟩)
    · exact .inr (.inr ⟨_, rfl⟩)
  failure hc := by
    rcases hc with hc | hc <;> cases hc

theorem Converts.isReport {r : Except Fault Ending} (h : Converts w isDry input output s r t) :
    (endOfRun r).IsReport := by
  have hfault : ({ code := ExitCode.fault.number } : Ending).IsReport :=
    Ending.isReport_of_ne (by decide) (by decide) (by decide)
  cases h with
  | unchecked => exact hfault
  | oversized => exact hfault
  | brokenOff => exact hfault
  | refused hx =>
    refine Ending.isReport_failed fun hc => ?_
    cases hx with
    | noInput _ hg => cases hg.symm.trans hc
    | noOutput _ _ hout => cases hout.code_eq.symm.trans hc
  | unloaded => exact Ending.isReport_failed (by decide)
  | unwritten => exact Ending.isReport_failed (by decide)
  | dry => exact Ending.isReport_succeeded (.inl rfl)
  | written =>
    refine Ending.isReport_succeeded ?_
    split
    · exact .inr (.inl rfl)
    · exact .inr (.inr rfl)

/-! ## The run -/

/-- The exit code of a run with both of its paths, from what its settings come to. -/
noncomputable def verdict (w : Workspace) (isDry : Bool) (input output : Path) :
    Except SettingsError Settings → ExitCode
  | .error _ => .settings
  | .ok s => conversionCode w isDry input output s.output

/-- A run with both of its paths, within the limits of the file system and of numbers, ends with the
exit code of the first thing that is wrong. Settings that cannot be used leave everything as it was
and print nothing; in all other cases what is printed is one report that fits the code. -/
theorem code_eq_verdict {arguments : List Text} {o : Options}
    {settings : Except SettingsError Settings} (h : Asks arguments o)
    (hi : o.input = some input) (ho : o.output = some output)
    (hs : Loaded w o (.ok settings)) (hfi : w.Fits input) (hfo : w.Fits output)
    (hshort : ∀ bytes, w.found? input = some (.file bytes) →
      (Source.bytes bytes).HasShortNumbers) :
    (run arguments w).1.code = (verdict w o.isDry input output settings).number ∧
    ((∃ x, settings = .error x) →
      (run arguments w).1.output = [] ∧ (run arguments w).2.files = w.files) ∧
    (run arguments w).1.IsReport := by
  have hr := runs h hi ho w
  generalize (run arguments w).2.files = t at hr ⊢
  generalize (run arguments w).1 = ending at hr ⊢
  cases hr with
  | broken hb => cases (hs.unique hb).1
  | unusable hb =>
    cases (hs.unique hb).1
    exact ⟨rfl, fun _ => ⟨rfl, rfl⟩,
      Ending.isReport_of_ne (show ExitCode.settings.number ≠ _ by decide)
        (show ExitCode.settings.number ≠ _ by decide) (show ExitCode.settings.number ≠ _ by decide)⟩
  | converted hb hfor hcv =>
    cases (hs.unique hb).1
    refine ⟨hcv.code_eq hfor hfi hfo hshort, ?_, hcv.isReport⟩
    rintro ⟨x, hx⟩
    cases hx

theorem loaded_noDocument : Loaded noDocument plainOptions (.ok (.ok {})) := fun j => ⟨j, rfl⟩

theorem fits_noDocument :
    noDocument.Fits (.ofText "m".toList) ∧ noDocument.Fits (.ofText "o".toList) :=
  ⟨⟨by decide, by decide⟩, ⟨by decide, by decide⟩⟩

/-- Without bytes there are no numbers. -/
theorem hasShortNumbers_nil : (Source.bytes []).HasShortNumbers := by
  have hs : (Source.bytes []).states = [] := List.isEmpty_iff.1 (by decide +kernel)
  have ht : (Source.bytes []).transitions = [] := List.isEmpty_iff.1 (by decide +kernel)
  constructor <;> simp [hs, ht]

theorem code_eq_verdict_noDocument :
    (run ["m".toList, "o".toList] noDocument).1.code =
      (verdict noDocument false (.ofText "m".toList) (.ofText "o".toList) (.ok {})).number ∧
    (run ["m".toList, "o".toList] noDocument).1.IsReport := by
  have ha : Asks ["m".toList, "o".toList] plainOptions := rfl
  have hf : noDocument.found? (.ofText "m".toList) = some (.file []) := rfl
  have h := code_eq_verdict ha rfl rfl loaded_noDocument fits_noDocument.1 fits_noDocument.2
    fun bytes hb => by
      cases hf.symm.trans hb
      exact hasShortNumbers_nil
  exact ⟨h.1, h.2.2⟩

end Command
end DfaTable
