import DfaTable.Proofs.Journal.Fields
import Mathlib.Data.List.Forall2

/-!
# DfaTable.Proofs.Journal.Documents

The document that a line of the journal names. It is no field of the event but of the journal, so
that an event whose own fields stay clear of it names the document that is set, and none if none is.

* `lookup_allFields`: the document among the fields of a line.
* `linesOf_of_isOrdinary`: a line that can be written.
* `logs_reports`: what a series of events adds.
-/

namespace DfaTable
namespace Journal

open Text

/-- The fields of an event are its own matter: none of them names a document, nor has it lines of
its own. -/
def IsOrdinary (e : Event) : Prop :=
  ∀ f ∈ e.fields, f.1 ∉ [documentName, stackName, failureName]

/-- The journal after some events. -/
def reports (j : Journal) (es : List Event) : Journal := es.foldl (fun j e => j.report e) j

/-- Between two journals, events are written in order with a document. -/
structure Logs (j k : Journal) (document : Text) (es : List Event) : Prop where
  events_eq : k.events = es.reverse ++ j.events
  written_eq : ∃ texts,
    List.Forall₂ (fun e t => (k.setDocument document).linesOf e = .ok t) es texts ∧
      k.written = j.written ++ texts.flatten
  document_eq : ∀ e ∈ es, (allFields document k.now e).lookup documentName =
    if document = [] then none else some (.text document)

variable {j k : Journal} {e : Event} {es : List Event} {document now : Text}

/-! ## The fields of a line -/

theorem IsOrdinary.ne {name : Text} (h : IsOrdinary e)
    (hn : name ∈ [documentName, stackName, failureName]) : ∀ f ∈ e.fields, f.1 ≠ name := by
  rintro f hf rfl
  exact h f hf hn

/-- A line names the document that is set. -/
theorem lookup_allFields (h : IsOrdinary e) (document now : Text) :
    (allFields document now e).lookup documentName =
      if document = [] then none else some (.text document) := by
  rw [(carries_allFields document now e).lookup_eq,
    given?_eq_none_iff.2 (h.ne (List.mem_cons_self ..))]

/-- Without fields that have lines of their own, nothing can be misplaced. -/
theorem linesOf_of_isOrdinary (h : IsOrdinary e) (j : Journal) : ∃ t, j.linesOf e = .ok t := by
  have hsuits : Suits j.isJson e := by
    refine .inr fun name hn v hv => ?_
    rw [given?_eq_none_iff.2 (h.ne (List.mem_cons_of_mem _ hn))] at hv
    cases hv
  obtain ⟨t, ht⟩ := exists_lines_iff.2 hsuits
  unfold linesOf
  rw [ht]
  split <;> exact ⟨_, rfl⟩

/-! ## Series of events -/

@[simp] theorem reports_nil (j : Journal) : j.reports [] = j := rfl

@[simp] theorem reports_cons (j : Journal) (e : Event) (es : List Event) :
    j.reports (e :: es) = (j.report e).reports es := rfl

theorem reports_append (j : Journal) (es fs : List Event) :
    j.reports (es ++ fs) = (j.reports es).reports fs := List.foldl_append

/-- Reporting changes nothing of the journal but what it keeps and what it has written. -/
theorem reports_eq (j : Journal) (es : List Event) :
    j.reports es = { j with
      events := es.reverse ++ j.events
      written := j.written ++ es.flatMap fun e => (j.linesOf e).toOption.getD [] } := by
  induction es generalizing j with
  | nil => simp
  | cons e es ih =>
    -- What an event looks like does not depend on what was written before it.
    have hlines : ∀ f, (j.report e).linesOf f = j.linesOf f := fun f => rfl
    rw [reports_cons, ih]
    simp only [hlines]
    simp only [report, List.reverse_cons, List.append_assoc, List.singleton_append,
      List.flatMap_cons]

/-- Ordinary events are all written, and with the document that is set. -/
theorem logs_reports (h : ∀ e ∈ es, IsOrdinary e) (j : Journal) :
    Logs j (j.reports es) j.document es where
  events_eq := by rw [reports_eq]
  written_eq := by
    have hlines : ∀ e, ((j.reports es).setDocument j.document).linesOf e = j.linesOf e := by
      intro e
      rw [reports_eq]
      rfl
    refine ⟨es.map fun e => (j.linesOf e).toOption.getD [], ?_, ?_⟩
    · rw [List.forall₂_map_right_iff, List.forall₂_same]
      intro e he
      obtain ⟨t, ht⟩ := linesOf_of_isOrdinary (h e he) j
      rw [hlines, ht]
      rfl
    · rw [reports_eq, List.flatMap_def]
  document_eq e he := lookup_allFields (h e he) _ _

/-- The document may be set just for the events, and the form just before them. -/
theorem Logs.of_setDocument {i : Journal} (h : Logs i k document es)
    (he : i.events = j.events) (hw : i.written = j.written) :
    Logs j k.clearDocument document es where
  events_eq := he ▸ h.events_eq
  written_eq := hw ▸ h.written_eq
  document_eq := h.document_eq

end Journal
end DfaTable
