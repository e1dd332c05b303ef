import DfaTable.Journal.Logger
import DfaTable.Proofs.Journal.Configuration
import DfaTable.Proofs.Journal.Fields
import Mathlib.Data.List.Induction

/-!
# DfaTable.Proofs.Journal.Loggers

What is written through loggers, over any steps. A journal forgets everything but how it was
configured last and which document was set last, and a logger knows no more than the name that it was
asked for by.

* `texts_eq_outcomes`: steps without loggers are calls of the journal.
* `recalls_after`: all that is left of some steps, apart from what was written.
* `answers_linesOf`: when a report writes, and what.
* `outcomes_configure_of_le`: a higher level silences the steps below it and leaves all others
  alone.
* `obeys_latest`: all this together.
-/

namespace DfaTable
namespace Journal

open Text

/-! ## Steps one behind the other -/

namespace Registry

@[simp] theorem after_nil (g : Registry) : g.after [] = g := rfl

@[simp] theorem after_cons (g : Registry) (s : Step) (steps : List Step) :
    g.after (s :: steps) = (g.next s).after steps := rfl

theorem after_concat (g : Registry) (steps : List Step) (s : Step) :
    g.after (steps ++ [s]) = (g.after steps).next s := List.foldl_append

theorem outcomes_append (g : Registry) (before steps : List Step) :
    g.outcomes (before ++ steps) = g.outcomes before ++ (g.after before).outcomes steps := by
  induction before generalizing g with
  | nil => rfl
  | cons s before ih => exact congrArg (g.outcome s :: ·) (ih (g.next s))

@[simp] theorem length_outcomes (g : Registry) (steps : List Step) :
    (g.outcomes steps).length = steps.length := by
  induction steps generalizing g with
  | nil => rfl
  | cons s steps ih => exact congrArg (· + 1) (ih (g.next s))

theorem getElem?_outcomes (g : Registry) (before rest : List Step) (s : Step) :
    (g.outcomes (before ++ s :: rest))[before.length]? = some ((g.after before).outcome s) := by
  rw [outcomes_append, List.getElem?_append_right (length_outcomes g before).le, length_outcomes,
    Nat.sub_self]
  rfl

theorem journal_next_call (g : Registry) (c : Call) :
    (g.next (.call c)).journal = c.next g.journal := by
  cases c <;> rfl

/-- Without loggers, the steps are the calls of the journal; these end with the first that fails. -/
theorem texts_eq_outcomes (g : Registry) (calls : List Call) :
    texts g.journal calls = (g.outcomes (calls.map .call)).mapM id := by
  induction calls generalizing g with
  | nil => rfl
  | cons c calls ih =>
    have hrest := ih (g.next (.call c))
    rw [journal_next_call] at hrest
    rw [texts, Call.run_eq, List.map_cons, outcomes, List.mapM_cons, ← hrest]
    show _ = (c.outcome g.journal >>= _)
    cases c.outcome g.journal <;> rfl

end Registry

/-! ## What steps leave -/

namespace Step

/-- The level and the form of a step that configures the journal. -/
def configuration? : Step → Option (Text × Text)
  | call (.configure level format) => some (level, format)
  | _ => none

/-- The document that a step sets; clearing sets the empty one. -/
def document? : Step → Option Text
  | call (.setDocument document) => some document
  | call .clearDocument => some []
  | _ => none

/-- The name by which a step asks for a logger. -/
def source? : Step → Option Text
  | ask source => some source
  | _ => none

/-- The event of a step that reports, where the loggers that were asked for have these names. -/
def event? (sources : List Text) : Step → Option Event
  | call (.report e) => some e
  | log i severity name fields =>
    sources[i]?.map fun source => { severity, source, name, fields }
  | _ => none

/-- A step that does not configure the journal. -/
def IsUse : Step → Prop
  | call c => c.IsUse
  | ask _ | log .. => True

end Step

/-- The level and the form that were asked for last. -/
def configurationOf (steps : List Step) : Text × Text :=
  (steps.filterMap Step.configuration?).getLastD ("info".toList, "text".toList)

/-- The document that was set last, if it was not cleared since. -/
def documentOf (steps : List Step) : Text := (steps.filterMap Step.document?).getLastD []

/-- The names of the loggers that were asked for. -/
def sourcesOf (steps : List Step) : List Text := steps.filterMap Step.source?

/-- What is left of some steps, apart from what was written: the last configuration, the last
document, and loggers that know nothing but their names. -/
structure Recalls (now : Text) (steps : List Step) (g : Registry) : Prop where
  threshold_eq : g.journal.threshold = thresholdOf (configurationOf steps).1
  isJson_eq : g.journal.isJson = ((configurationOf steps).2 == jsonWord)
  document_eq : g.journal.document = documentOf steps
  now_eq : g.journal.now = now
  keepsBindings_eq : g.keepsBindings = false
  loggers_eq : g.loggers = (sourcesOf steps).map fun source => { source }

variable {now : Text} {steps : List Step} {g : Registry}

theorem recalls_start (now : Text) : Recalls now [] (.start now) where
  threshold_eq := rfl
  isJson_eq := rfl
  document_eq := rfl
  now_eq := rfl
  keepsBindings_eq := rfl
  loggers_eq := rfl

theorem getLastD_filterMap_concat {α β : Type} (f : α → Option β) (usual : β) (xs : List α)
    (x : α) :
    ((xs ++ [x]).filterMap f).getLastD usual =
      (f x).getD ((xs.filterMap f).getLastD usual) := by
  rw [List.filterMap_append]
  cases hx : f x with
  | none => simp [hx]
  | some b => simp [hx]

theorem configurationOf_concat (steps : List Step) (s : Step) :
    configurationOf (steps ++ [s]) = s.configuration?.getD (configurationOf steps) :=
  getLastD_filterMap_concat ..

theorem documentOf_concat (steps : List Step) (s : Step) :
    documentOf (steps ++ [s]) = s.document?.getD (documentOf steps) :=
  getLastD_filterMap_concat ..

theorem sourcesOf_concat (steps : List Step) (s : Step) :
    sourcesOf (steps ++ [s]) = sourcesOf steps ++ s.source?.toList := by
  unfold sourcesOf
  rw [List.filterMap_append]
  cases hs : s.source? <;> simp [hs]

section
variable (g : Registry) (s : Step)

theorem document_target (l : Logger) (j : Journal) : (l.target j).document = j.document := by
  unfold Logger.target
  split <;> rfl

theorem now_target (l : Logger) (j : Journal) : (l.target j).now = j.now := by
  unfold Logger.target
  split <;> rfl

/-- A step configures the journal, or sets its document, or does neither. -/
theorem journal_next :
    (g.next s).journal.threshold =
        (s.configuration?.map fun c => thresholdOf c.1).getD g.journal.threshold ∧
      (g.next s).journal.isJson =
        (s.configuration?.map fun c => c.2 == jsonWord).getD g.journal.isJson ∧
      (g.next s).journal.document = s.document?.getD g.journal.document ∧
      (g.next s).journal.now = g.journal.now := by
  cases s with
  | call c => cases c <;> exact ⟨rfl, rfl, rfl, rfl⟩
  | ask source => exact ⟨rfl, rfl, rfl, rfl⟩
  | log i severity name fields =>
    unfold Registry.next
    dsimp only
    split
    · exact ⟨rfl, rfl, document_target _ _, now_target _ _⟩
    · exact ⟨rfl, rfl, rfl, rfl⟩

/-- Nothing makes loggers stay with what they find out. -/
theorem keepsBindings_next {g : Registry} (h : g.keepsBindings = false) :
    (g.next s).keepsBindings = false := by
  cases s with
  | call c => cases c <;> first | rfl | exact h
  | ask source => exact h
  | log i severity name fields =>
    unfold Registry.next
    dsimp only
    split <;> exact h

/-- So using a logger does not change it. -/
theorem loggers_next {g : Registry} (h : g.keepsBindings = false) :
    (g.next s).loggers = g.loggers ++ s.source?.toList.map fun source => ({ source } : Logger) := by
  have hnone : g.loggers = g.loggers ++ [] := (List.append_nil _).symm
  cases s with
  | call c => cases c <;> exact hnone
  | ask source => rfl
  | log i severity name fields =>
    unfold Registry.next
    dsimp only
    split
    · next l hl =>
      obtain ⟨hi, rfl⟩ := List.getElem?_eq_some_iff.1 hl
      have hused : (g.loggers[i].used g.keepsBindings g.journal) = g.loggers[i] := by
        unfold Logger.used
        rw [h, if_neg Bool.false_ne_true]
      show g.loggers.set i (g.loggers[i].used g.keepsBindings g.journal) = g.loggers ++ []
      rw [hused, List.set_getElem_self, List.append_nil]
    · exact hnone

end

theorem Recalls.next (h : Recalls now steps g) (s : Step) :
    Recalls now (steps ++ [s]) (g.next s) where
  threshold_eq := by
    rw [(journal_next g s).1, configurationOf_concat, h.threshold_eq]
    cases s.configuration? <;> rfl
  isJson_eq := by
    rw [(journal_next g s).2.1, configurationOf_concat, h.isJson_eq]
    cases s.configuration? <;> rfl
  document_eq := by rw [(journal_next g s).2.2.1, documentOf_concat, h.document_eq]
  now_eq := (journal_next g s).2.2.2.trans h.now_eq
  keepsBindings_eq := keepsBindings_next s h.keepsBindings_eq
  loggers_eq := by
    rw [loggers_next s h.keepsBindings_eq, sourcesOf_concat, h.loggers_eq, List.map_append]

theorem recalls_after (now : Text) (steps : List Step) :
    Recalls now steps ((Registry.start now).after steps) := by
  induction steps using List.reverseRecOn with
  | nil => exact recalls_start now
  | append_singleton steps s ih =>
    rw [Registry.after_concat]
    exact ih.next s

/-- If loggers stayed with what they find out, one that was used before would not follow the
journal. -/
example :
    let g : Registry := { journal := {}, keepsBindings := true, loggers := [{ source := ['a'] }] }
    let h := (g.next (.log 0 .info ['e'] [])).configure "error".toList jsonWord
    (h.journal.threshold, h.loggers.map fun l => (l.target h.journal).threshold) =
      (.error, [.info]) := rfl

/-! ## What a report writes -/

/-- A journal that was configured and given a document like the one that some steps leave, by
nothing but these two calls. -/
def latest (now : Text) (steps : List Step) : Journal :=
  (({ now } : Journal).configure (configurationOf steps).1 (configurationOf steps).2).setDocument
    (documentOf steps)

/-- What a journal writes depends on four of its parts. -/
theorem linesOf_congr {j k : Journal} (ht : j.threshold = k.threshold) (hj : j.isJson = k.isJson)
    (hd : j.document = k.document) (hn : j.now = k.now) (e : Event) :
    j.linesOf e = k.linesOf e := by
  unfold linesOf
  rw [ht, hj, hd, hn]

theorem Recalls.linesOf_eq (h : Recalls now steps g) (e : Event) :
    g.journal.linesOf e = (latest now steps).linesOf e :=
  linesOf_congr h.threshold_eq h.isJson_eq h.document_eq h.now_eq e

theorem Recalls.outcome_eq (h : Recalls now steps g) {s : Step} {e : Event}
    (he : s.event? (sourcesOf steps) = some e) : g.outcome s = (latest now steps).linesOf e := by
  cases s with
  | call c =>
    cases c with
    | report f =>
      cases he
      exact h.linesOf_eq e
    | _ => cases he
  | ask source => cases he
  | log i severity name fields =>
    obtain ⟨source, hs, rfl⟩ := Option.map_eq_some_iff.1 he
    have hl : g.loggers[i]? = some { source } := by
      rw [h.loggers_eq, List.getElem?_map, hs]
      rfl
    dsimp only [Registry.outcome]
    rw [hl]
    exact h.linesOf_eq _

/-- What comes of an event under a level and a form, with a document that may be set. -/
structure Answers (level format document now : Text) (e : Event) (r : Except Misplaced Text) :
    Prop where
  silent_iff : r = .ok [] ↔ e.severity.rank < (thresholdOf level).rank
  lines_eq : (thresholdOf level).rank ≤ e.severity.rank →
    r = (lines (format == jsonWord) document now e).map (· ++ ['\n'])
  written_iff : Suits (format == jsonWord) e →
    ((∃ t, r = .ok (t ++ ['\n'])) ↔ (thresholdOf level).rank ≤ e.severity.rank)

theorem answers_linesOf (now level format document : Text) (e : Event) :
    Answers level format document now e
    (((({ now } : Journal).configure level format).setDocument document).linesOf e) := by
  generalize hr : ((({ now } : Journal).configure level format).setDocument document).linesOf e = r
  have hlow : e.severity.rank < (thresholdOf level).rank → r = .ok [] := by
    intro hlt
    rw [← hr]
    exact if_neg fun hp => Nat.not_le.2 hlt (of_decide_eq_true hp)
  have hhigh : (thresholdOf level).rank ≤ e.severity.rank →
      r = (lines (format == jsonWord) document now e).map (· ++ ['\n']) := by
    intro hle
    rw [← hr]
    exact if_pos (decide_eq_true hle)
  have hne : (thresholdOf level).rank ≤ e.severity.rank → r ≠ .ok [] := by
    intro hle
    rw [hhigh hle]
    cases lines (format == jsonWord) document now e with
    | error m => exact nofun
    | ok t => simp [Except.map]
  refine ⟨⟨fun h => Nat.not_le.1 fun hle => hne hle h, hlow⟩, hhigh, fun hs => ⟨?_, fun hle => ?_⟩⟩
  · rintro ⟨t, ht⟩
    refine Nat.not_lt.1 fun hlt => ?_
    rw [hlow hlt] at ht
    simp at ht
  · obtain ⟨t, ht⟩ := exists_lines_iff.2 hs
    exact ⟨t, by rw [hhigh hle, ht]; rfl⟩

/-! ## Two levels -/

/-- The severity of a step that reports. -/
def Step.severity? : Step → Option Severity
  | call (.report e) => some e.severity
  | log _ severity _ _ => some severity
  | _ => none

/-- What is left of what a step writes if everything below a severity is silenced. -/
def silenced (threshold : Severity) (s : Step) (r : Except Misplaced Text) :
    Except Misplaced Text :=
  if s.severity?.any (·.rank < threshold.rank) then .ok [] else r

variable {before done : List Step} {level format : Text}

theorem configurationOf_of_isUse (h : ∀ s ∈ done, s.IsUse) :
    configurationOf (before ++ .call (.configure level format) :: done) = (level, format) := by
  have hnone : done.filterMap Step.configuration? = [] := by
    rw [List.filterMap_eq_nil_iff]
    intro s hs
    have hu := h s hs
    cases s with
    | call c => cases c <;> first | rfl | exact hu.elim
    | _ => rfl
  unfold configurationOf
  rw [List.filterMap_append, List.filterMap_cons_some (f := Step.configuration?) rfl, hnone]
  simp

theorem documentOf_configure :
    documentOf (before ++ .call (.configure level format) :: done) =
      documentOf (before ++ done) := by
  unfold documentOf
  rw [List.filterMap_append, List.filterMap_cons_none rfl, ← List.filterMap_append]

theorem sourcesOf_configure :
    sourcesOf (before ++ .call (.configure level format) :: done) = sourcesOf (before ++ done) := by
  unfold sourcesOf
  rw [List.filterMap_append, List.filterMap_cons_none rfl, ← List.filterMap_append]

theorem Recalls.outcome_eq_nil (h : Recalls now steps g) {s : Step}
    (he : s.event? (sourcesOf steps) = none) : g.outcome s = .ok [] := by
  cases s with
  | call c =>
    cases c with
    | report f => cases he
    | _ => rfl
  | ask source => rfl
  | log i severity name fields =>
    have hl : g.loggers[i]? = none := by
      rw [h.loggers_eq, List.getElem?_map, Option.map_eq_none_iff.1 he]
      rfl
    dsimp only [Registry.outcome]
    rw [hl]

theorem severity?_of_event? {sources : List Text} {s : Step} {e : Event}
    (h : s.event? sources = some e) : s.severity? = some e.severity := by
  cases s with
  | call c =>
    cases c with
    | report f =>
      cases h
      rfl
    | _ => cases h
  | ask source => cases h
  | log i severity name fields =>
    obtain ⟨source, -, rfl⟩ := Option.map_eq_some_iff.1 h
    rfl

/-- What a step writes some steps after the journal was configured, under a higher level. -/
theorem outcome_configure_of_le {low high : Text}
    (hle : (thresholdOf low).rank ≤ (thresholdOf high).rank) (h : ∀ s ∈ done, s.IsUse)
    {g k : Registry} (hg : Recalls now (before ++ .call (.configure low format) :: done) g)
    (hk : Recalls now (before ++ .call (.configure high format) :: done) k) (s : Step) :
    k.outcome s = silenced (thresholdOf high) s (g.outcome s) := by
  have hevent : ∀ level,
      s.event? (sourcesOf (before ++ .call (.configure level format) :: done)) =
        s.event? (sourcesOf (before ++ done)) := fun level => by rw [sourcesOf_configure]
  cases he : s.event? (sourcesOf (before ++ done)) with
  | none =>
    rw [hg.outcome_eq_nil ((hevent low).trans he), hk.outcome_eq_nil ((hevent high).trans he)]
    exact (ite_self _).symm
  | some e =>
    rw [hg.outcome_eq ((hevent low).trans he), hk.outcome_eq ((hevent high).trans he)]
    unfold latest silenced
    rw [configurationOf_of_isUse h, configurationOf_of_isUse h, documentOf_configure,
      documentOf_configure, severity?_of_event? he, Option.any_some]
    have hlow := answers_linesOf now low format (documentOf (before ++ done)) e
    have hhigh := answers_linesOf now high format (documentOf (before ++ done)) e
    by_cases hb : e.severity.rank < (thresholdOf high).rank
    · rw [if_pos (decide_eq_true hb)]
      exact hhigh.silent_iff.2 hb
    · have hp := Nat.not_lt.1 hb
      rw [if_neg (by simpa using hp), hhigh.lines_eq hp, hlow.lines_eq (hle.trans hp)]

theorem outcomes_configure_of_le {low high : Text}
    (hle : (thresholdOf low).rank ≤ (thresholdOf high).rank) {g k : Registry}
    (hg : Recalls now (before ++ .call (.configure low format) :: done) g)
    (hk : Recalls now (before ++ .call (.configure high format) :: done) k)
    (hd : ∀ s ∈ done, s.IsUse) (hs : ∀ s ∈ steps, s.IsUse) :
    k.outcomes steps = List.zipWith (silenced (thresholdOf high)) steps (g.outcomes steps) := by
  induction steps generalizing done g k with
  | nil => rfl
  | cons s steps ih =>
    have hg' := hg.next s
    have hk' := hk.next s
    rw [List.append_assoc, List.cons_append] at hg' hk'
    have hd' : ∀ t ∈ done ++ [s], t.IsUse := by
      intro t ht
      rcases List.mem_append.1 ht with ht | ht
      · exact hd t ht
      · exact List.mem_singleton.1 ht ▸ hs s (List.mem_cons_self ..)
    exact congrArg₂ List.cons (outcome_configure_of_le hle hd hg hk s)
      (ih hg' hk' hd' fun t ht => hs t (List.mem_cons_of_mem _ ht))

/-- Whatever steps came before, a report writes what it would write to a journal that was only
configured as it was last and only given the document that was set last; when its logger was asked for
makes no difference. It writes nothing if and only if it is below the level; otherwise it writes its
lines, which carry the document that is set, in the place of one that the event names itself. With a
higher level the same steps write the same, but for those below it, which write nothing. -/
theorem obeys_latest (now : Text) (before : List Step) :
    (∀ s e rest, s.event? (sourcesOf before) = some e →
      ((Registry.start now).outcomes (before ++ s :: rest))[before.length]? =
        some ((latest now before).linesOf e)) ∧
    (∀ e, Answers (configurationOf before).1 (configurationOf before).2 (documentOf before) now e
        ((latest now before).linesOf e) ∧
      Carries (documentOf before) now e) ∧
    (∀ level severity, (lower level, severity) ∈ severities → thresholdOf level = severity) ∧
    ∀ low high format steps, (thresholdOf low).rank ≤ (thresholdOf high).rank →
      (∀ s ∈ steps, s.IsUse) →
      (((Registry.start now).after before).configure high format).outcomes steps =
        List.zipWith (silenced (thresholdOf high)) steps
          ((((Registry.start now).after before).configure low format).outcomes steps) := by
  have hbefore := recalls_after now before
  refine ⟨fun s e rest he => ?_, fun e => ⟨answers_linesOf _ _ _ _ e, carries_allFields _ _ e⟩,
    fun level severity h => thresholdOf_eq h, fun low high format steps hle hs => ?_⟩
  · rw [Registry.getElem?_outcomes, hbefore.outcome_eq he]
  · exact outcomes_configure_of_le hle (hbefore.next (.call (.configure low format)))
      (hbefore.next (.call (.configure high format))) (List.forall_mem_nil _) hs

/-- The logger was asked for before the journal was configured, a document was cleared in between,
and the event names one itself. -/
theorem obeys_latest_earlyLogger :
    let before : List Step := [.ask ['a'], .call (.configure "WARN".toList jsonWord),
      .call (.setDocument ['m']), .call .clearDocument, .call (.setDocument ['n'])]
    let e : Event :=
      { severity := .warning, source := ['a'], name := ['e'], fields := [textField "document" ['o']] }
    let s : Step := .log 0 e.severity e.name e.fields
    let g := (Registry.start []).after before
    (s.event? (sourcesOf before) = some e ∧
      ((Registry.start []).outcomes (before ++ s :: [.call .clearDocument]))[5]? =
        some ((latest [] before).linesOf e)) ∧
    (Suits true e ∧ (Severity.warning).rank ≤ e.severity.rank ∧
      (∃ t, (latest [] before).linesOf e = .ok (t ++ ['\n'])) ∧
      (allFields ['n'] [] e).lookup documentName = some (.text ['n'])) ∧
    ((lower "WARN".toList, Severity.warning) ∈ severities ∧
      thresholdOf "WARN".toList = .warning) ∧
    (thresholdOf "WARN".toList).rank ≤ (thresholdOf "error".toList).rank ∧
      (∀ t ∈ [s, .call .clearDocument, s], t.IsUse) ∧
      (g.configure "error".toList jsonWord).outcomes [s, .call .clearDocument, s] =
        List.zipWith (silenced (thresholdOf "error".toList)) [s, .call .clearDocument, s]
          ((g.configure "WARN".toList jsonWord).outcomes [s, .call .clearDocument, s]) := by
  intro before e s g
  obtain ⟨hreport, hline, hlevel, hsilenced⟩ := obeys_latest [] before
  have hwarn : thresholdOf "WARN".toList = .warning := hlevel _ _ (by decide)
  have huse : ∀ t ∈ [s, .call .clearDocument, s], t.IsUse := by simp [s, Step.IsUse, Call.IsUse]
  have hsuits : Suits true e := .inl rfl
  refine ⟨⟨rfl, hreport s e _ rfl⟩, ⟨hsuits, le_refl _, ?_, ?_⟩, ⟨by decide, hwarn⟩, by decide,
    huse, hsilenced _ _ _ _ (by decide) huse⟩
  · refine ((hline e).1.written_iff hsuits).2 ?_
    show (thresholdOf "WARN".toList).rank ≤ _
    rw [hwarn]
  · exact (hline e).2.lookup_eq

end Journal
end DfaTable
