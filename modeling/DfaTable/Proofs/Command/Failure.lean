import DfaTable.Proofs.Command.Course

/-!
# DfaTable.Proofs.Command.Failure

What a run that fails leaves behind. Nothing that was there is changed; at most there is an empty
file at the output path and a directory above it.

* `keeps_of_failure`: this holds of every run that does not end with success.
* `files_of_inputFailure`: where the input is at fault, even this happens only behind a check of the
  output that has passed.
-/

namespace DfaTable

open Files

variable {w : Workspace} {input output : Path} {t : Tree}

theorem Record.grows_of_error {records : List Record} {s : OutputSettings} {e : Encoding}
    {f : Fault} (h : Writes w output records s e (.error f) t) :
    Tree.Grows (w.Makes output) w.files t := by
  have hmono : ∀ q e, IsAbove w output q e → w.Makes output q e := fun _ _ => .inl
  cases h with
  | refused hg => exact hg.mono hmono
  | notReplaced hg => exact hg.mono hmono

namespace Command

variable {isDry : Bool} {s : OutputSettings} {r : Except Fault Ending} {o : Options}
  {ending : Ending}

/-- A conversion that does not end with success has written nothing. -/
theorem Converts.grows (h : Converts w isDry input output s r t) (hs : ∃ e, s.IsFor e)
    (hc : (endOfRun r).code ≠ ExitCode.success.number) :
    Tree.Grows (w.Makes output) w.files t := by
  obtain ⟨e, he⟩ := hs
  have hwrite : ∀ {bytes : List UInt8} {a : Automaton} {f : Fault} {u v : Tree},
      Ready w isDry output u → loadSource input.write (.bytes bytes) = .ok (.ok a) →
      (Record.writeAll output (Table.ofAutomaton a).records s).Ends (w.on u) (.error f) v →
      Tree.Grows (w.Makes output) w.files v := by
    intro bytes a f u v hr hl hw
    have hwrites := Record.writes_of_ends he (isShort_of_loaded hl) hw
    exact hr.grows.trans (Record.grows_of_error hwrites)
  cases h with
  | unchecked hx => exact hx.grows
  | refused hx => exact hx.grows
  | oversized _ hr => exact hr.grows
  | unloaded _ hr => exact hr.grows
  | dry => exact absurd rfl hc
  | written => exact absurd rfl hc
  | unwritten _ _ hr hl hw => exact hwrite hr hl hw
  | brokenOff _ _ hr hl hw => exact hwrite hr hl hw

theorem Runs.grows (h : Runs w o input output ending t)
    (hc : ending.code ≠ ExitCode.success.number) : Tree.Grows (w.Makes output) w.files t := by
  cases h with
  | broken => exact .refl _
  | unusable => exact .refl _
  | converted _ he hr => exact hr.grows he hc

/-- An empty file, which is no document, and nothing else. -/
def noDocument : Workspace where
  files := { entries := [(["m".toList], .file [])] }

/-- Whatever makes a run fail, all that was there is there unchanged, and all that is new is an
empty file at the output path and directories above it. -/
theorem keeps_of_failure (arguments : List Text) (w : Workspace)
    (h : (run arguments w).1.code ≠ ExitCode.success.number) :
    (∀ q e, w.files.find? q = some e → (run arguments w).2.files.find? q = some e) ∧
    (∀ q e, w.files.find? q = none → (run arguments w).2.files.find? q = some e →
      ∃ o output, Asks arguments o ∧ o.output = some output ∧ w.Makes output q e) := by
  -- Without both of its paths a run does not come to the files at all.
  by_cases hp : ∀ o input output, Asks arguments o → o.input = some input →
      o.output ≠ some output
  · rw [files_run hp]
    refine ⟨fun _ _ hq => hq, fun q e hn hs => ?_⟩
    rw [hn] at hs
    cases hs
  · push Not at hp
    obtain ⟨o, input, output, ha, hi, ho⟩ := hp
    have hg := (runs ha hi ho w).grows h
    exact ⟨hg.kept, fun q e hn hs => ⟨o, output, ha, ho, hg.added q e hn hs⟩⟩

set_option maxRecDepth 10000 in
/-- The empty document is still empty after it was not understood. -/
theorem keeps_of_failure_noDocument :
    (run ["m".toList, "o".toList] noDocument).1.code ≠ ExitCode.success.number ∧
    (run ["m".toList, "o".toList] noDocument).2.files.find? ["m".toList] = some (.file []) := by
  have hc : (run ["m".toList, "o".toList] noDocument).1.code ≠ ExitCode.success.number := by
    decide +kernel
  exact ⟨hc, (keeps_of_failure _ noDocument hc).1 ["m".toList] (.file []) rfl⟩

/-- A conversion that finds its input at fault has come no further than its checks. -/
theorem Converts.of_inputFailure (h : Converts w isDry input output s r t)
    (hc : (endOfRun r).code = ExitCode.input.number) :
    (∀ bytes, w.found? input ≠ some (.file bytes)) ∧ t = w.files ∨
      (∃ bytes, w.found? input = some (.file bytes)) ∧ Ready w isDry output t := by
  cases h with
  | unchecked => cases hc
  | refused hx =>
    cases hx with
    | noInput hn => exact .inl ⟨hn, rfl⟩
    | noOutput _ _ hout => cases hout.code_eq.symm.trans hc
  | oversized => cases hc
  | unloaded hf hr => exact .inr ⟨⟨_, hf⟩, hr⟩
  | dry => cases hc
  | written => cases hc
  | unwritten => cases hc
  | brokenOff => cases hc

/-- Where the input is at fault, no file is touched, unless there was nothing at the output path of
a run that is not dry: then there may be an empty file and the directories above it. -/
theorem files_of_inputFailure {arguments : List Text} (h : Asks arguments o)
    (hi : o.input = some input) (ho : o.output = some output) (w : Workspace)
    (hc : (run arguments w).1.code = ExitCode.input.number) :
    Tree.Grows (w.Makes output) w.files (run arguments w).2.files ∧
    (o.isDry = true ∨ (∀ bytes, w.found? input ≠ some (.file bytes)) ∨
        (∃ e, w.found? output = some e) →
      (run arguments w).2.files = w.files) := by
  have hr := runs h hi ho w
  refine ⟨hr.grows (by rw [hc]; decide), fun hq => ?_⟩
  generalize (run arguments w).2.files = t at hr ⊢
  generalize (run arguments w).1 = ending at hr hc
  cases hr with
  | broken => rfl
  | unusable => rfl
  | converted _ _ hcv =>
    rcases hcv.of_inputFailure hc with ⟨-, rfl⟩ | ⟨⟨bytes, hf⟩, hready⟩
    · rfl
    · rcases hq with hd | hn | he
      · exact hready.eq (.inl hd)
      · exact absurd hf (hn bytes)
      · exact hready.eq (.inr he)

/-- The options of a run with two paths and nothing else. -/
def plainOptions : Options where
  input := some (.ofText "m".toList)
  output := some (.ofText "o".toList)

set_option maxRecDepth 10000 in
/-- There is nothing new in the tree but the output file. -/
theorem files_of_inputFailure_noDocument :
    (run ["m".toList, "o".toList] noDocument).1.code = ExitCode.input.number ∧
    Tree.Grows (noDocument.Makes (.ofText "o".toList)) noDocument.files
      (run ["m".toList, "o".toList] noDocument).2.files := by
  have hc : (run ["m".toList, "o".toList] noDocument).1.code = ExitCode.input.number := by
    decide +kernel
  have ha : Asks ["m".toList, "o".toList] plainOptions := rfl
  exact ⟨hc, (files_of_inputFailure ha rfl rfl noDocument hc).1⟩

set_option maxRecDepth 10000 in
/-- The output file is made before the document is read, so it is there though nothing could be
written to it. -/
theorem exists_files_ne_of_inputFailure :
    ¬ ∀ (arguments : List Text) (o : Options) (input output : Path) (w : Workspace),
      Asks arguments o → o.input = some input → o.output = some output →
      (run arguments w).1.code = ExitCode.input.number → (run arguments w).2.files = w.files := by
  intro h
  have hc : (run ["m".toList, "o".toList] noDocument).1.code = ExitCode.input.number := by
    decide +kernel
  have ha : Asks ["m".toList, "o".toList] plainOptions := rfl
  have hfiles := h _ _ _ _ noDocument ha rfl rfl hc
  have hnew : (run ["m".toList, "o".toList] noDocument).2.files.find? ["o".toList] =
      some (.file []) := by
    decide +kernel
  rw [hfiles] at hnew
  cases hnew

end Command
end DfaTable
