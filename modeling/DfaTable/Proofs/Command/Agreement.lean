import DfaTable.Proofs.Command.Failure
import DfaTable.Proofs.Record.Policies

/-!
# DfaTable.Proofs.Command.Agreement

A dry run tells what a real run would do. Both compile the automaton that is in the input, so where
the real run ends with success both report the same table, and the lines of that table are what the
real run gives to the encoding. Most encodings write them so that they can be read back; two do not.

* `Ready.find?_goal`: the bytes at the output path after a table was written.
* `Runs.of_success`: what a real run with success has found, reported and written.
* `Converts.of_dry`: what a dry run has done and reported with the same input.
* `dry_agrees`: all of it, for the command line.
* `exists_lines_not_written`: with IDNA a run reports success and leaves an empty file.
-/

namespace DfaTable

open Files

variable {w : Workspace} {output : Path} {t u : Tree}

namespace Command

variable {isDry : Bool} {input : Path} {s : OutputSettings} {r : Except Fault Ending}

/-- The checks of a run leave to the file at the output path what is kept of it. -/
theorem Ready.keptOf_eq {v : Tree} (h : Ready w isDry output t)
    (hg : Tree.Grows (Record.IsAbove (w.on t) output) t v)
    (hd : v.find? (w.goal output) ≠ some .directory) (s : OutputSettings) :
    Record.keptOf s (v.find? (w.goal output)) =
      Record.keptOf s (w.files.find? (w.goal output)) := by
  have hg : Tree.Grows (w.Makes output) w.files v := h.grows.trans (hg.mono fun _ _ => .inl)
  cases hw : w.files.find? (w.goal output) with
  | some e => rw [hg.kept _ e hw]
  | none =>
    cases hv : v.find? (w.goal output) with
    | none => rfl
    | some e =>
      rcases hg.added _ e hw hv with ⟨rfl, -⟩ | ⟨rfl, -⟩
      · exact absurd hv hd
      · cases hs : decide (s.existing = Record.appending) <;> simp [Record.keptOf, keptBytes, hs]

/-- The file at the output path after a table was written has its lines, behind what is kept. -/
theorem Ready.find?_goal {n : Nat} {records : List Record} {e : Encoding}
    (h : Ready w isDry output t) (he : s.IsFor e) (hr : ∀ r ∈ records, r.IsShort)
    (hw : (Record.writeAll output records s).Ends (w.on t) (.ok n) u) :
    u.find? (w.goal output) = some (.file (Record.fileBytes e
      (Record.keptOf s (w.files.find? (w.goal output))) records)) := by
  cases Record.writes_of_ends he hr hw with
  | written hg _ hd =>
    have hne : w.goal output ≠ [] := Tree.ne_nil_of_find? hd
    rw [← h.keptOf_eq hg hd s]
    exact (Tree.find?_put _ hne _ _).trans (if_pos rfl)

/-- A dry conversion changes nothing, and with an automaton in the input it reports its table. -/
theorem Converts.of_dry (h : Converts w true input output s r t) :
    t = w.files ∧ ∀ bytes a, w.found? input = some (.file bytes) →
      loadSource input.write (.bytes bytes) = .ok (.ok a) →
      r = .ok (.succeeded "dry_run" "Would write TCDF file" output (.ofAutomaton a)) := by
  cases h with
  | unchecked hx =>
    cases hx with
    | inputFault hi =>
      refine ⟨rfl, fun bytes a hf => ?_⟩
      cases (Workspace.look_of_found? hf).symm.trans hi
    | outputFault hr => cases hr
  | refused hx =>
    cases hx with
    | noInput hn => exact ⟨rfl, fun bytes a hf => absurd hf (hn bytes)⟩
    | noOutput hr => cases hr
  | oversized hf' hready hl' =>
    refine ⟨hready.eq (.inl rfl), fun bytes a hf hl => ?_⟩
    cases hf.symm.trans hf'
    cases hl.symm.trans hl'
  | unloaded hf' hready hl' =>
    refine ⟨hready.eq (.inl rfl), fun bytes a hf hl => ?_⟩
    cases hf.symm.trans hf'
    cases hl.symm.trans hl'
  | dry _ hf' hl' =>
    refine ⟨rfl, fun bytes a hf hl => ?_⟩
    cases hf.symm.trans hf'
    cases hl.symm.trans hl'
    rfl
  | written hr => cases hr
  | unwritten hr => cases hr
  | brokenOff hr => cases hr

variable {o : Options} {ending : Ending} {bytes : List UInt8} {a : Automaton}

theorem Runs.files_of_dry (h : Runs w o input output ending t) (hd : o.isDry = true) :
    t = w.files := by
  cases h with
  | broken => rfl
  | unusable => rfl
  | converted _ _ hc =>
    rw [hd] at hc
    exact hc.of_dry.1

theorem Runs.dry_of_loaded {s : Settings} (h : Runs w o input output ending t)
    (hd : o.isDry = true) (hs : Loaded w o (.ok (.ok s)))
    (hf : w.found? input = some (.file bytes))
    (hl : loadSource input.write (.bytes bytes) = .ok (.ok a)) :
    ending = .succeeded "dry_run" "Would write TCDF file" output (.ofAutomaton a) := by
  cases h with
  | broken hb => cases (hs.unique hb).1
  | unusable hb => cases (hs.unique hb).1
  | converted _ _ hc =>
    rw [hd] at hc
    rw [hc.of_dry.2 bytes a hf hl]
    rfl

/-- What a real run that ends with success has done. -/
theorem Runs.of_success (h : Runs w o input output ending t) (hr : o.isDry = false)
    (hc : ending.code = ExitCode.success.number) :
    ∃ (bytes : List UInt8) (a : Automaton) (s : Settings) (e : Encoding),
      w.found? input = some (.file bytes) ∧
      loadSource input.write (.bytes bytes) = .ok (.ok a) ∧
      Loaded w o (.ok (.ok s)) ∧ s.output.IsFor e ∧
      ending = .succeeded (if (Table.ofAutomaton a).warnings.isEmpty then "success" else "partial")
        "conversion done." output (.ofAutomaton a) ∧
      t.find? (w.goal output) = some (.file (Record.fileBytes e
        (Record.keptOf s.output (w.files.find? (w.goal output)))
        (Table.ofAutomaton a).records)) := by
  cases h with
  | broken => cases hc
  | unusable => cases hc
  | converted hs hfor hcv =>
    obtain ⟨e, he⟩ := hfor
    cases hcv with
    | unchecked => cases hc
    | refused hx =>
      cases hx with
      | noInput _ hg => cases hg.symm.trans hc
      | noOutput _ _ hout => cases hout.code_eq.symm.trans hc
    | oversized => cases hc
    | unloaded => cases hc
    | dry hd => cases hd.symm.trans hr
    | written _ hf hv hl hw =>
      exact ⟨_, _, _, e, hf, hl, hs, he, rfl, hv.find?_goal he (isShort_of_loaded hl) hw⟩
    | unwritten => cases hc
    | brokenOff => cases hc

/-- The texts that are written for the lines of a table. -/
theorem map_spelledLines (table : Table) :
    table.spelledLines.map (· ++ ['\n']) = Record.spelledLines table.records :=
  List.map_map ..

/-- A dry run changes nothing. Where a real run of the same input ends with success, so does the dry
run, with the same table in its report. The real run has then given each line of that table, with a
line feed, to the encoding, which could write all of them, and has the bytes in the file, behind what
is kept of it. The lines are read back from these bytes, unless the encoding is Punycode, which puts a
hyphen behind each of them, or IDNA, which keeps all of them back. -/
theorem dry_agrees {dry : List Text} {d : Options} (hd : Asks dry d) (hdry : d.isDry = true)
    (w : Workspace) :
    (run dry w).2.files = w.files ∧
    ∀ (real : List Text) (o : Options) (input output output' : Path),
      d.input = some input → d.output = some output' →
      Asks real o → o.isDry = false → o.input = some input → o.output = some output →
      o.config = d.config → (run real w).1.code = ExitCode.success.number →
      ∃ (bytes : List UInt8) (a : Automaton) (s : Settings) (e : Encoding) (lines : List Text)
        (written : List UInt8),
        w.found? input = some (.file bytes) ∧
        loadSource input.write (.bytes bytes) = .ok (.ok a) ∧
        Loaded w o (.ok (.ok s)) ∧ s.output.IsFor e ∧
        let table := Table.ofAutomaton a
        let reported := a.transitions.filter fun t => (Label.expand t.label).isReported
        let old := Record.keptOf s.output (w.files.find? (w.goal output))
        let texts := lines.map (· ++ ['\n'])
        (run dry w).1 = .succeeded "dry_run" "Would write TCDF file" output' table ∧
        (run real w).1 = .succeeded (if reported = [] then "success" else "partial")
          "conversion done." output table ∧
        table.warnings = reported.map (fun t => Label.warningText t.label) ∧
        table.lines? = some lines ∧ table.records.length = lines.length ∧
        texts.flatten.count '\n' = table.records.length ∧
        e.encodeAll (.opened old.isEmpty) texts = (written, none) ∧ e.Keeps texts written ∧
        (run real w).2.files.find? (w.goal output) = some (.file (old ++ written)) := by
  constructor
  · by_cases hp : ∃ input output, d.input = some input ∧ d.output = some output
    · obtain ⟨input, output, hi, ho⟩ := hp
      exact (runs hd hi ho w).files_of_dry hdry
    · refine files_run (fun o input output ha hi ho => hp ?_) w
      cases hd.symm.trans ha
      exact ⟨input, output, hi, ho⟩
  · intro real o input output output' hdi hdo hr hreal hi ho hconfig hc
    obtain ⟨bytes, a, s, e, hf, hl, hs, he, hending, hfile⟩ :=
      (runs hr hi ho w).of_success hreal hc
    -- With the same settings and the same document the dry run has no choice left.
    have hsd : Loaded w d (.ok (.ok s)) := by
      rw [Loaded, Options.directory, ← hconfig]
      exact hs
    let table := Table.ofAutomaton a
    let old := Record.keptOf s.output (w.files.find? (w.goal output))
    have hplain := Record.isPlain_spelledLines table.records
    obtain ⟨written, hwritten, hkeeps⟩ :=
      Encoding.encodeAll_plain he.ne_undefined hplain old.isEmpty
    rw [Record.fileBytes, hwritten] at hfile
    rw [← map_spelledLines] at hwritten hkeeps
    have hcount := Record.count_lineFeed table.records
    rw [← map_spelledLines] at hcount
    refine ⟨bytes, a, s, e, table.spelledLines, written, hf, hl, hs, he,
      (runs hd hdi hdo w).dry_of_loaded hdry hsd hf hl, ?_, Table.warnings_ofAutomaton a,
      Table.lines?_eq_some_iff.2 ⟨hasShortNumbers_of_loaded hl, rfl⟩, (List.length_map _).symm,
      hcount, hwritten, hkeeps, hfile⟩
    rw [hending, Table.warnings_ofAutomaton]
    simp

/-- A document with one state and an edge whose label is no label. -/
def oneEdge : Text :=
  "<a><state id='0'/><transition><from>0</from><to>0</to><read>ab</read></transition></a>".toList

def oneEdgeFile : Workspace where
  files := { entries := [(["m".toList], .file (Encoding.Utf8.encode oneEdge))] }

set_option maxRecDepth 10000 in
/-- Both runs report the table of the document. -/
theorem dry_agrees_oneEdge :
    (run ["--dry-run".toList, "m".toList, "o".toList] oneEdgeFile).2.files = oneEdgeFile.files ∧
    ∃ table status, (run ["--dry-run".toList, "m".toList, "o".toList] oneEdgeFile).1 =
        .succeeded "dry_run" "Would write TCDF file" (.ofText "o".toList) table ∧
      (run ["m".toList, "o".toList] oneEdgeFile).1 =
        .succeeded status "conversion done." (.ofText "o".toList) table := by
  have hd : Asks ["--dry-run".toList, "m".toList, "o".toList] { plainOptions with isDry := true } :=
    rfl
  have hr : Asks ["m".toList, "o".toList] plainOptions := rfl
  have hc : (run ["m".toList, "o".toList] oneEdgeFile).1.code = ExitCode.success.number := by
    decide +kernel
  obtain ⟨hfiles, h⟩ := dry_agrees hd rfl oneEdgeFile
  obtain ⟨_, a, _, _, _, _, _, _, _, _, hdry, hreal, -⟩ :=
    h _ plainOptions _ _ _ rfl rfl hr rfl rfl rfl rfl hc
  exact ⟨hfiles, Table.ofAutomaton a, _, hdry, hreal⟩

/-- Settings that ask for IDNA, and a document. -/
def idnaFile : Workspace where
  files := { entries := [
    (["config".toList], .directory),
    (["config".toList, "defaults.yaml".toList],
      .file (Encoding.Utf8.encode "output:\n  encoding: idna\n".toList)),
    (["m".toList], .file (Encoding.Utf8.encode oneEdge))] }

set_option maxRecDepth 10000 in
/-- The encoding waits for the end of the text, which nobody tells it, so nothing of the lines gets
to the file; yet the run reports them. -/
theorem exists_lines_not_written : ∃ table status,
    (run ["m".toList, "o".toList] idnaFile).1 =
      .succeeded status "conversion done." (.ofText "o".toList) table ∧
    table.records ≠ [] ∧
    (run ["m".toList, "o".toList] idnaFile).2.files.find? ["o".toList] = some (.file []) := by
  have hc : (run ["m".toList, "o".toList] idnaFile).1.code = ExitCode.success.number := by
    decide +kernel
  have hr : Asks ["m".toList, "o".toList] plainOptions := rfl
  obtain ⟨_, a, _, _, _, _, _, _, hending, -⟩ := (runs hr rfl rfl idnaFile).of_success rfl hc
  have hempty : (run ["m".toList, "o".toList] idnaFile).2.files.find? ["o".toList] =
      some (.file []) := by
    decide +kernel
  refine ⟨Table.ofAutomaton a, _, hending, ?_, hempty⟩
  rw [Table.records_ofAutomaton]
  simp

end Command
end DfaTable
