import DfaTable.Proofs.Command.Usage
import DfaTable.Proofs.Table.Accounting
import DfaTable.Proofs.Workspace.Reports

/-!
# DfaTable.Proofs.Command.Documents

The document that the journal names, over many runs in one process. Each run goes on with the
journal of the one before it, as it was configured there.

* `reports_convert`: a conversion leaves it to the journal which document is named.
* `journal_withDocument`: however it ends, the document is set for its events alone.
* `separates_session`: so no run names the document of another.
-/

namespace DfaTable

open Journal Work

/-- The name of the event with which a conversion begins. -/
def startName : Text := "conversion_started".toList

/-- The name of the event of a run that was broken off. -/
def breakName : Text := "cli_error".toList

/-- What a conversion reports. -/
structure IsInner (e : Event) : Prop where
  ordinary : IsOrdinary e
  name_ne : e.name ≠ breakName

/-- Whether the names in an event are not taken. -/
def hasOwnNames (e : Event) : Bool :=
  e.name != breakName &&
    (e.fields.map Prod.fst).all fun name => ! [documentName, stackName, failureName].contains name

theorem isInner_of_hasOwnNames {e : Event} (h : hasOwnNames e = true) : IsInner e := by
  rw [hasOwnNames, Bool.and_eq_true, bne_iff_ne, List.all_eq_true] at h
  refine ⟨fun f hf hm => ?_, h.1⟩
  have hall := h.2 f.1 (List.mem_map_of_mem hf)
  rw [List.contains_iff_mem.2 hm] at hall
  cases hall

/-- The values of the fields have no part in it. -/
theorem Work.Reports.inner {severity : Severity} {source name : String}
    {fields : List (Text × Value)}
    (h : hasOwnNames
      { severity, source := source.toList, name := name.toList, fields } = true := by rfl) :
    (Work.report severity source name fields).Reports IsInner :=
  .report (isInner_of_hasOwnNames h)

/-! ## The parts of a conversion -/

theorem Files.reports_replace (p : Path) (encoding : Text) (c : Content) :
    (replace p encoding c).Reports IsInner := by
  refine .bind (reports_haveDirectories _) fun _ => .bind (reports_make p) fun draft =>
    .tryCatch ?_ fun f => ?_
  · exact .bind (reports_write _ _ _ _) fun _ => .bind (reports_move _ _) fun _ => .inner
  · refine .bind .inner fun _ => .bind (reports_isThere draft) fun found => ?_
    split
    · exact .bind (reports_remove draft) fun _ => .throw _
    · exact .throw _

theorem Record.reports_writeAll (p : Path) (records : List Record) (s : OutputSettings) :
    (writeAll p records s).Reports IsInner := by
  have hlast : (do
      Work.report .debug "pipeline.converter" "records_written"
        [textField "path" p.write, countField "lines" records.length]
      return records.length : Work Nat).Reports IsInner := .bind .inner fun _ => .pure _
  unfold writeAll
  dsimp only
  split
  · exact .bind (Files.reports_write _ _ _ _) fun _ => hlast
  · split
    · exact .bind (Files.reports_replace _ _ _) fun _ => hlast
    · exact .bind (Files.reports_write _ _ _ _) fun _ => hlast

namespace Guard

theorem reports_fail {α : Type} {guard : String} {code : ExitCode} {p : Path}
    {message details : Text} {more : List (Text × Value)}
    (h : more.map Prod.fst ⊆ ["error".toList]) :
    (fail guard code p message details more : Work (Except GuardError α)).Reports IsInner := by
  refine .bind (.report (isInner_of_hasOwnNames ?_)) fun _ => .pure _
  simp only [hasOwnNames, List.map_append, List.all_append, Bool.and_eq_true]
  refine ⟨rfl, rfl, List.all_eq_true.2 fun name hn => ?_⟩
  rw [List.mem_singleton.1 (h hn)]
  rfl

theorem reports_pass (guard : String) (p : Path) : (pass guard p).Reports IsInner := .inner

theorem reports_checkInput (p : Path) : (checkInput p).Reports IsInner := by
  refine .bind (Files.reports_isThere p) fun found => ?_
  split
  · exact reports_fail (List.nil_subset _)
  · refine .bind (Files.reports_isFile p) fun found => ?_
    split
    · exact reports_fail (List.nil_subset _)
    · exact .bind (reports_pass _ p) fun _ => .pure _

theorem reports_create (p : Path) : (create p).Reports IsInner := by
  refine .tryCatch ?_ fun f => ?_
  · exact .bind (Files.reports_haveDirectories _) fun _ => .bind (Files.reports_touch p) fun _ =>
      .pure _
  · split
    · exact .pure _
    · exact .throw _

theorem reports_checkOutput (p : Path) : (checkOutput p).Reports IsInner := by
  refine .bind (Files.reports_isDirectory p) fun found => ?_
  split
  · exact reports_fail (List.nil_subset _)
  · refine .bind (Files.reports_isThere p) fun found => ?_
    split
    · exact .bind .inner fun _ => .pure _
    · refine .bind (reports_create p) fun trouble => ?_
      split
      · exact reports_fail (List.Subset.refl _)
      · exact .bind (reports_pass _ p) fun _ => .pure _

theorem reports_check (input output : Path) : (check input output).Reports IsInner := by
  refine .bind (reports_checkInput input) fun r => ?_
  split
  · exact .pure _
  · exact reports_checkOutput output

end Guard

namespace Automaton

theorem reports_reportLoading (p : Path) (r : Except LoadError Automaton) :
    (reportLoading p r).Reports IsInner := by
  cases r <;> exact .inner

theorem reports_ofFile (p : Path) : (ofFile p).Reports IsInner := by
  have hbytes : (bytesOfFile p).Reports IsInner := by
    refine .tryCatch (.bind (Files.reports_read p) fun _ => .pure _) fun f => ?_
    split
    · exact .pure _
    · exact .throw _
  refine .bind hbytes fun r => ?_
  split
  · unfold ofFileBytes
    split
    · exact .throw _
    · exact .bind (reports_reportLoading p _) fun _ => .pure _
  · exact .bind .inner fun _ => .pure _

end Automaton

theorem Table.isInner_of_mem_events {a : Automaton} {e : Event} (h : e ∈ (ofAutomaton a).events) :
    IsInner e := by
  rcases List.mem_append.1 h with h | h
  · rcases List.mem_cons.1 h with rfl | h
    · exact isInner_of_hasOwnNames rfl
    · rw [events_ofTransitions] at h
      obtain ⟨edge, -, rfl⟩ := List.mem_map.1 h
      exact isInner_of_hasOwnNames rfl
  · rw [List.mem_singleton.1 h]
    exact isInner_of_hasOwnNames rfl

namespace Command

variable {isDry : Bool} {input output : Path} {s : OutputSettings}

theorem reports_checkPaths (isDry : Bool) (input output : Path) :
    (checkPaths isDry input output).Reports IsInner := by
  unfold checkPaths
  split
  · exact .bind (Guard.reports_checkInput input) fun _ => .pure _
  · exact .bind (Guard.reports_check input output) fun _ => .pure _

theorem reports_writeTable (output : Path) (t : Table) (s : OutputSettings) :
    (writeTable output t s).Reports IsInner := by
  refine .tryCatch (.bind (Record.reports_writeAll _ _ s) fun _ => .pure _) fun f => ?_
  split
  · exact .pure _
  · exact .throw _

theorem reports_compile (isDry : Bool) (output : Path) (s : OutputSettings) (a : Automaton) :
    (compile isDry output s a).Reports IsInner := by
  refine .bind (.reportAll fun e => Table.isInner_of_mem_events) fun _ => ?_
  split
  · exact .pure _
  · refine .bind (reports_writeTable output _ s) fun f => ?_
    cases f <;> exact .bind .inner fun _ => .pure _

/-- The run behind its first event. -/
def conversion (isDry : Bool) (input output : Path) (s : OutputSettings) : Work Ending := do
  match ← checkPaths isDry input output with
  | .error x => return .failed x.code x.write
  | .ok () =>
    match ← Automaton.ofFile input with
    | .error x => return .failed ExitCode.input.number x.write
    | .ok a => compile isDry output s a

theorem reports_conversion (isDry : Bool) (input output : Path) (s : OutputSettings) :
    (conversion isDry input output s).Reports IsInner := by
  refine .bind (reports_checkPaths isDry input output) fun r => ?_
  split
  · exact .pure _
  · refine .bind (Automaton.reports_ofFile input) fun r => ?_
    split
    · exact .pure _
    · exact reports_compile isDry output s _

/-- A conversion begins with an event of its own, and reports no fault that breaks it off. -/
theorem reports_convert (isDry : Bool) (input output : Path) (s : OutputSettings)
    (w : Workspace) : ∃ e es, e.name = startName ∧ (∀ f ∈ e :: es, IsInner f) ∧
      ((convert isDry input output s).run.run w).2.journal = w.journal.reports (e :: es) := by
  let e : Event :=
    { severity := .info, source := source.toList, name := startName
      fields := [textField "input" input.write, textField "output" output.write,
        ("dry_run".toList, .bool isDry)] }
  obtain ⟨es, he, hj⟩ :=
    reports_conversion isDry input output s { w with journal := w.journal.report e }
  refine ⟨e, es, rfl, fun f hf => ?_, hj⟩
  rcases List.mem_cons.1 hf with rfl | hf
  · exact isInner_of_hasOwnNames rfl
  · exact he f hf

end Command

/-! ## The settings -/

namespace Settings

/-- Loading the settings does nothing to the journal at all. -/
theorem reports_settle {α : Type} (a : Check α) : (settle a).Reports fun _ => False := by
  unfold settle
  split
  · exact .pure _
  · exact .throw _

theorem reports_ofFile (p : Path) : (ofFile p).Reports fun _ => False := by
  have hread : (do settle (ofBytes (← Files.read p)) :
      Work (Except SettingsError Draft)).Reports fun _ => False :=
    .bind (Files.reports_read p) fun _ => reports_settle _
  refine .bind (Files.reports_isThere p) fun found => ?_
  split
  · exact .pure _
  · refine .tryCatch hread fun f => ?_
    split
    · exact .pure _
    · exact .throw _

/-- The settings of the draft that was read, if they pass their check. -/
def validated : Except SettingsError Draft → Work (Except SettingsError Settings)
  | .error e => return .error e
  | .ok d => settle d.validate

theorem reports_validated (r : Except SettingsError Draft) :
    (validated r).Reports fun _ => False := by
  cases r with
  | error e => exact .pure _
  | ok d => exact reports_settle _

theorem reports_load (directory : Path) : (load directory).Reports fun _ => False := by
  refine .bind (Files.reports_isThere _) fun found => ?_
  split
  · exact .bind (reports_ofFile _) fun _ => .bind (.pure _) reports_validated
  · exact .bind (.pure _) reports_validated

end Settings

theorem Work.Reports.journal_eq {α : Type} {m : Work α} (h : m.Reports fun _ => False)
    (w : Workspace) : (m.run.run w).2.journal = w.journal := by
  obtain ⟨es, he, hj⟩ := h w
  rw [hj, List.eq_nil_iff_forall_not_mem.2 he, reports_nil]

namespace Command

/-! ## A run -/

variable {arguments : List Text} {o : Options} {j k l : Journal} {name : Text}
  {inside outside : List Event}

/-- However work ends, the document that is set for it is cleared behind it. -/
theorem journal_withDocument {α : Type} (name : Text) (m : Work α) (w : Workspace) :
    ((withDocument name m).run.run w).2.journal =
      (m.run.run { w with journal := w.journal.setDocument name }).2.journal.clearDocument := by
  rw [withDocument, run_onJournal_bind, run_bind, run_tryCatch]
  rcases m.run.run { w with journal := w.journal.setDocument name } with ⟨_ | _, _⟩ <;> rfl

/-- The events of a conversion that arguments ask for, with the name of its document. -/
structure Begins (arguments : List Text) (name : Text) (inside : List Event) : Prop where
  asks : ∃ o input output, Asks arguments o ∧ o.input = some input ∧ o.output = some output ∧
    name = input.name
  starts : ∃ e es, inside = e :: es ∧ e.name = startName
  name_ne : ∀ e ∈ inside, e.name ≠ breakName

/-- A run goes from one journal to another, naming no document but its own and this only in its
conversion: what it reports there is all `inside`, and `outside` of it only a fault that breaks the
run off. -/
structure Separates (arguments : List Text) (j l : Journal) (name : Text)
    (inside outside : List Event) : Prop where
  document_eq : l.document = []
  logs : ∃ k, Logs j k name inside ∧ Logs k l [] outside
  inside_eq : inside = [] ∨ Begins arguments name inside
  outside_eq : outside = [] ∨ ∃ f, outside = [faultEvent f]

theorem logs_nil (j : Journal) : Logs j j [] [] where
  events_eq := rfl
  written_eq := ⟨[], .nil, (List.append_nil _).symm⟩
  document_eq := by simp

/-- A conversion under the name of its input. -/
theorem journal_runWith (h : Asks arguments o) {input output : Path} (hi : o.input = some input)
    (ho : o.output = some output) (s : Settings) (w : Workspace) :
    ∃ inside, Begins arguments input.name inside ∧
      ((runWith o input output s).run.run w).2.journal.document = [] ∧
      Logs w.journal ((runWith o input output s).run.run w).2.journal input.name inside := by
  rw [runWith, run_onJournal_bind, journal_withDocument]
  obtain ⟨e, es, hs, hinner, hj⟩ := reports_convert o.isDry input output s.output
    { w with journal := (w.journal.configure (o.level.getD s.logging.level)
      (o.format.getD s.logging.format)).setDocument input.name }
  refine ⟨e :: es, ⟨⟨o, input, output, h, hi, ho, rfl⟩, ⟨e, es, rfl, hs⟩,
    fun f hf => (hinner f hf).name_ne⟩, rfl, ?_⟩
  rw [hj]
  exact (logs_reports (fun f hf => (hinner f hf).ordinary) _).of_setDocument rfl rfl

theorem journal_runOptions (h : Asks arguments o) (w : Workspace) (hd : w.journal.document = []) :
    ∃ name inside, (inside = [] ∨ Begins arguments name inside) ∧
      ((runOptions o).run.run w).2.journal.document = [] ∧
      Logs w.journal ((runOptions o).run.run w).2.journal name inside := by
  have hload := (Settings.reports_load (o.config.getD Settings.usualDirectory)).journal_eq w
  unfold runOptions
  rw [run_bind]
  rcases hr : (Settings.load (o.config.getD Settings.usualDirectory)).run.run w with ⟨r, w'⟩
  replace hload : w'.journal = w.journal := by rw [← hload, hr]
  have hkept : w'.journal.document = [] ∧ Logs w.journal w'.journal [] [] := by
    rw [hload]
    exact ⟨hd, logs_nil _⟩
  cases r with
  | error f => exact ⟨[], [], .inl rfl, hkept⟩
  | ok settings =>
    dsimp only
    split
    · rename_i input output hi ho
      split
      · exact ⟨[], [], .inl rfl, hkept⟩
      · rename_i s
        rw [← hload]
        obtain ⟨inside, hb, hrun⟩ := journal_runWith h hi ho s w'
        exact ⟨input.name, inside, .inr hb, hrun⟩
    · exact ⟨[], [], .inl rfl, hkept⟩

theorem journal_runArguments (arguments : List Text) (w : Workspace)
    (hd : w.journal.document = []) :
    ∃ name inside, (inside = [] ∨ Begins arguments name inside) ∧
      ((runArguments arguments).run.run w).2.journal.document = [] ∧
      Logs w.journal ((runArguments arguments).run.run w).2.journal name inside := by
  have hkept : ∃ name inside, (inside = [] ∨ Begins arguments name inside) ∧
      w.journal.document = [] ∧ Logs w.journal w.journal name inside :=
    ⟨[], [], .inl rfl, hd, logs_nil _⟩
  unfold runArguments
  cases hr : (Request.ofArguments arguments).run with
  | error f => exact hkept
  | ok r =>
    cases r with
    | error p => exact hkept
    | ok q =>
      cases q with
      | help => exact hkept
      | version => exact hkept
      | run o => exact journal_runOptions hr w hd

theorem separates_run (arguments : List Text) (w : Workspace) (hd : w.journal.document = []) :
    ∃ name inside outside,
      Separates arguments w.journal (run arguments w).2.journal name inside outside := by
  obtain ⟨name, inside, hb, hk, hlogs⟩ := journal_runArguments arguments w hd
  unfold run
  rcases hr : (runArguments arguments).run.run w with ⟨f | ending, w'⟩
  · rw [hr] at hk hlogs
    have hbreak : Logs w'.journal (w'.journal.reports [faultEvent f]) w'.journal.document
        [faultEvent f] := by
      refine logs_reports (fun e he => ?_) _
      rw [List.mem_singleton.1 he]
      intro field hf
      rw [List.mem_singleton.1 hf]
      show "error".toList ∉ _
      decide
    change w'.journal.document = [] at hk
    rw [hk] at hbreak
    exact ⟨name, inside, [faultEvent f], hk, ⟨_, hlogs, hbreak⟩, hb, .inr ⟨f, rfl⟩⟩
  · rw [hr] at hk hlogs
    exact ⟨name, inside, [], hk, ⟨_, hlogs, logs_nil _⟩, hb, .inl rfl⟩

/-! ## A session -/

/-- A run in a session: its arguments, and what it finds but for the journal. -/
structure Invocation where
  arguments : List Text
  files : Files.Tree := {}
  home : Files.Place := []
  now : Text := []

/-- The journal after one more run. -/
def Invocation.journalAfter (j : Journal) (i : Invocation) : Journal :=
  (run i.arguments { files := i.files, home := i.home, journal := { j with now := i.now } }).2.journal

/-- The journal after some runs in one process. -/
def session (j : Journal) (runs : List Invocation) : Journal :=
  runs.foldl Invocation.journalAfter j

theorem separates_journalAfter (i : Invocation) (hd : j.document = []) :
    ∃ name inside outside, Separates i.arguments j (i.journalAfter j) name inside outside := by
  obtain ⟨name, inside, outside, h⟩ := separates_run i.arguments
    { files := i.files, home := i.home, journal := { j with now := i.now } } hd
  obtain ⟨k, hk, hl⟩ := h.logs
  -- The time of the run is no matter of what was kept and written before it.
  exact ⟨name, inside, outside, h.document_eq,
    ⟨k, ⟨hk.events_eq, hk.written_eq, hk.document_eq⟩, hl⟩, h.inside_eq, h.outside_eq⟩

theorem document_session (hd : j.document = []) (runs : List Invocation) :
    (session j runs).document = [] := by
  induction runs generalizing j with
  | nil => exact hd
  | cons i runs ih =>
    obtain ⟨name, inside, outside, h⟩ := separates_journalAfter i hd
    exact ih h.document_eq

/-- Whatever runs came before in the process, and however they ended, a run begins and ends without
a document. What it reports in its conversion is written with the name of its own input, if it has
one, and the fault that may break it off with no name. -/
theorem separates_session (hd : j.document = []) (before : List Invocation) (i : Invocation) :
    (session j before).document = [] ∧
    ∃ name inside outside,
      Separates i.arguments (session j before) (session j (before ++ [i])) name inside outside := by
  have hbefore := document_session hd before
  refine ⟨hbefore, ?_⟩
  have hlast : session j (before ++ [i]) = i.journalAfter (session j before) := List.foldl_append
  rw [hlast]
  exact separates_journalAfter i hbefore

/-- Neither input is there. -/
theorem separates_session_missing :
    let first : Invocation := { arguments := ["a.jff".toList, "a.tcdf".toList] }
    let second : Invocation := { arguments := ["b.jff".toList, "b.tcdf".toList] }
    ({} : Journal).document = [] ∧ ∃ name inside outside,
      Separates second.arguments (session {} [first]) (session {} [first, second])
        name inside outside := by
  intro first second
  exact ⟨rfl, (separates_session rfl [first] second).2⟩

end Command

end DfaTable
