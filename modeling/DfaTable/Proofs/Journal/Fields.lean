import DfaTable.Journal
import Mathlib.Data.List.Nodup

/-!
# DfaTable.Proofs.Journal.Fields

The fields of a line, and which of them come from the event.

* `lookup_put`, `map_fst_put`, `filter_put_ne`: what giving a field a value changes.
* `lookup_allFields_eq`: a field that the writer has no value for is the one that the event gives.
* `carries_allFields`: the document is put over the fields of the event, and changes nothing else.
* `exists_lines_iff`: which events can be written in which form.
-/

namespace DfaTable
namespace Journal

open Text

/-- The name of the field that holds the document. -/
def documentName : Text := "document".toList

variable {fs : Fields} {name document now : Text} {v : Value} {e : Event}

/-! ## Giving a field a value -/

theorem lookup_put (name other : Text) (v : Value) (fs : Fields) :
    (put name v fs).lookup other = if other = name then some v else fs.lookup other := by
  induction fs with
  | nil =>
    rw [put, List.lookup_cons]
    by_cases ho : other = name
    · rw [if_pos ho, beq_iff_eq.2 ho]
    · rw [if_neg ho, beq_eq_false_iff_ne.2 ho]
  | cons f fs ih =>
    obtain ⟨k, w⟩ := f
    unfold put
    split
    · rename_i hk
      rw [List.lookup_cons, List.lookup_cons, hk]
      by_cases ho : other = name
      · rw [if_pos ho, beq_iff_eq.2 ho]
      · rw [if_neg ho, beq_eq_false_iff_ne.2 ho]
    · rename_i hk
      rw [List.lookup_cons, List.lookup_cons, ih]
      by_cases ho : other = name
      · rw [if_pos ho, if_pos ho, beq_eq_false_iff_ne.2 (fun h => hk (h.symm.trans ho))]
      · rw [if_neg ho, if_neg ho]

theorem map_fst_put (name : Text) (v : Value) (fs : Fields) : (put name v fs).map Prod.fst =
    if name ∈ fs.map Prod.fst then fs.map Prod.fst else fs.map Prod.fst ++ [name] := by
  induction fs with
  | nil => rfl
  | cons f fs ih =>
    obtain ⟨k, w⟩ := f
    by_cases hk : k = name
    · simp [put, hk]
    · by_cases hm : name ∈ fs.map Prod.fst <;> simp_all [put, eq_comm]

theorem nodup_put (h : (fs.map Prod.fst).Nodup) : ((put name v fs).map Prod.fst).Nodup := by
  rw [map_fst_put]
  split
  · exact h
  · next hn =>
    rw [← List.concat_eq_append]
    exact List.Nodup.concat hn h

/-- The other fields stay as they are. -/
theorem filter_put_ne (name : Text) (v : Value) (fs : Fields) :
    (put name v fs).filter (·.1 != name) = fs.filter (·.1 != name) := by
  induction fs with
  | nil => simp [put]
  | cons f fs ih =>
    obtain ⟨k, w⟩ := f
    by_cases hk : k = name
    · simp [put, hk]
    · simp [put, hk, ih]

/-- A field that is never left out may be put before or after others are. -/
theorem filter_put_isSpent (h : ∀ v, isSpent (name, v) = false) (v : Value) (fs : Fields) :
    (put name v fs).filter (!isSpent ·) = put name v (fs.filter (!isSpent ·)) := by
  induction fs with
  | nil => simp [put, h]
  | cons f fs ih =>
    obtain ⟨k, w⟩ := f
    by_cases hk : k = name
    · subst hk
      simp [put, h]
    · cases hs : isSpent (k, w) <;> simp [put, hk, hs, ih]

/-! ## The fields that an event gives -/

/-- Of a field that is given several times, the last one counts. -/
theorem lookup_foldl_put (given fs : Fields) (name : Text) :
    (given.foldl (fun fs f => put f.1 f.2 fs) fs).lookup name =
      (given.reverse.lookup name).or (fs.lookup name) := by
  induction given generalizing fs with
  | nil => rfl
  | cons f given ih =>
    obtain ⟨k, v⟩ := f
    rw [List.foldl_cons, ih, lookup_put, List.reverse_cons, List.lookup_append, Option.or_assoc]
    by_cases hk : name = k
    · simp [hk]
    · rw [if_neg hk, List.lookup_cons, beq_eq_false_iff_ne.2 hk]
      rfl

theorem nodup_foldl_put (given : Fields) (h : (fs.map Prod.fst).Nodup) :
    ((given.foldl (fun fs f => put f.1 f.2 fs) fs).map Prod.fst).Nodup := by
  induction given generalizing fs with
  | nil => exact h
  | cons f given ih => exact ih (nodup_put h)

/-- What is left out of a line hides no other field. -/
theorem lookup_filter_isSpent (h : ∀ v, isSpent (name, v) = false) (fs : Fields) :
    (fs.filter (!isSpent ·)).lookup name = fs.lookup name := by
  induction fs with
  | nil => rfl
  | cons f fs ih =>
    obtain ⟨k, v⟩ := f
    rw [List.filter_cons, List.lookup_cons]
    by_cases hk : name = k
    · subst hk
      simp [h v]
    · rw [beq_eq_false_iff_ne.2 hk]
      split
      · rw [List.lookup_cons, beq_eq_false_iff_ne.2 hk]
        exact ih
      · exact ih

/-- The value that an event gives a field. -/
def given? (name : Text) (e : Event) : Option Value := e.fields.reverse.lookup name

theorem given?_eq_none_iff : given? name e = none ↔ ∀ f ∈ e.fields, f.1 ≠ name := by
  unfold given?
  rw [List.lookup_eq_none_iff]
  refine forall_congr' fun f => imp_congr List.mem_reverse ?_
  exact ⟨fun h hf => bne_iff_ne.1 h hf.symm, fun h => bne_iff_ne.2 (Ne.symm h)⟩

/-! ## All fields of a line -/

/-- The names of the fields that the writer has values for, besides the document. -/
def writerNames : List Text :=
  ["logger_name".toList, "event".toList, "level".toList, "timestamp".toList]

theorem isSpent_document (v : Value) : isSpent (documentName, v) = false := rfl

/-- The document is put last. -/
theorem allFields_eq_put (document now : Text) (e : Event) : allFields document now e =
    if document = [] then allFields [] now e
    else put documentName (.text document) (allFields [] now e) := by
  cases document with
  | nil => rfl
  | cons c document => exact filter_put_isSpent isSpent_document _ _

theorem lookup_allFields_nil (hs : ∀ v, isSpent (name, v) = false) (hn : name ∉ writerNames)
    (now : Text) (e : Event) : (allFields [] now e).lookup name = given? name e := by
  simp only [writerNames, List.mem_cons, List.not_mem_nil, or_false, not_or] at hn
  obtain ⟨hlogger, hevent, hlevel, htime⟩ := hn
  have hsource : ((if e.source.isEmpty then [] else
      [("logger_name".toList, Value.text e.source)]) : Fields).lookup name = none := by
    split
    · rfl
    · rw [List.lookup_cons, beq_eq_false_iff_ne.2 hlogger, List.lookup_nil]
  show List.lookup name (List.filter _ (putText _ _ (putText _ _ (putText _ _ _)))) = _
  simp only [putText]
  rw [lookup_filter_isSpent hs, lookup_put, if_neg htime, lookup_put, if_neg hlevel, lookup_put,
    if_neg hevent, lookup_foldl_put, hsource, Option.or_none]
  rfl

/-- A field that the writer has no value for is the one that the event gives, unless it is the
document. -/
theorem lookup_allFields_eq (hs : ∀ v, isSpent (name, v) = false) (hn : name ∉ writerNames)
    (document now : Text) (e : Event) : (allFields document now e).lookup name =
      if document ≠ [] ∧ name = documentName then some (.text document) else given? name e := by
  rw [allFields_eq_put]
  by_cases hd : document = []
  · rw [if_pos hd, if_neg (fun h => h.1 hd), lookup_allFields_nil hs hn]
  · rw [if_neg hd, lookup_put, lookup_allFields_nil hs hn]
    simp only [ne_eq, hd, not_false_eq_true, true_and]

theorem nodup_allFields_nil (now : Text) (e : Event) :
    ((allFields [] now e).map Prod.fst).Nodup := by
  have hsource : (((if e.source.isEmpty then [] else
      [("logger_name".toList, Value.text e.source)]) : Fields).map Prod.fst).Nodup := by
    split
    · exact List.nodup_nil
    · exact List.nodup_singleton _
  refine List.Nodup.sublist (List.filter_sublist.map Prod.fst) ?_
  exact nodup_put (nodup_put (nodup_put (nodup_foldl_put e.fields hsource)))

/-- No field stands in a line twice. The document that is set stands there, in the place of a field of
that name that the event gives; if none is set, this field does. All other fields are the same with
and without it. -/
structure Carries (document now : Text) (e : Event) : Prop where
  nodup : ((allFields document now e).map Prod.fst).Nodup
  lookup_eq : (allFields document now e).lookup documentName =
    if document = [] then given? documentName e else some (.text document)
  others_eq : (allFields document now e).filter (·.1 != documentName) =
    (allFields [] now e).filter (·.1 != documentName)
  names_eq : (given? documentName e).isSome = true →
    (allFields document now e).map Prod.fst = (allFields [] now e).map Prod.fst

theorem mem_map_fst_of_lookup (h : (fs.lookup name).isSome = true) : name ∈ fs.map Prod.fst := by
  obtain ⟨v, hv⟩ := Option.isSome_iff_exists.1 h
  obtain ⟨before, after, rfl, -⟩ := List.lookup_eq_some_iff.1 hv
  simp

theorem carries_allFields (document now : Text) (e : Event) : Carries document now e where
  nodup := by
    rw [allFields_eq_put]
    split
    · exact nodup_allFields_nil now e
    · exact nodup_put (nodup_allFields_nil now e)
  lookup_eq := by
    rw [lookup_allFields_eq isSpent_document (by decide)]
    by_cases hd : document = [] <;> simp [hd]
  others_eq := by
    rw [allFields_eq_put]
    split
    · rfl
    · exact filter_put_ne _ _ _
  names_eq h := by
    rw [allFields_eq_put]
    split
    · rfl
    · rw [← lookup_allFields_nil isSpent_document (by decide) now e] at h
      rw [map_fst_put, if_pos (mem_map_fst_of_lookup h)]

/-! ## Events that can be written -/

/-- A form suits an event if it can write it: on plain lines, the two fields with lines of their own
have to hold texts. -/
def Suits (isJson : Bool) (e : Event) : Prop :=
  isJson = true ∨ ∀ name ∈ [stackName, failureName], ∀ v, given? name e = some v →
    v = .null ∨ ∃ t, v = .text t

theorem exists_ownLines?_iff : (∃ t, ownLines? fs name = .ok t) ↔
    ∀ v, fs.lookup name = some v → v = .null ∨ ∃ t, v = .text t := by
  unfold ownLines?
  cases fs.lookup name with
  | none => simp
  | some v => cases v <;> simp

theorem exists_plainLines_iff : (∃ t, plainLines fs = .ok t) ↔
    ∀ name ∈ [stackName, failureName], ∃ t, ownLines? fs name = .ok t := by
  unfold plainLines
  rw [List.forall_mem_cons, List.forall_mem_singleton]
  cases ownLines? fs stackName with
  | error m => exact iff_of_false nofun (fun h => nomatch h.1)
  | ok stack? =>
    cases ownLines? fs failureName with
    | error m => exact iff_of_false nofun (fun h => nomatch h.2)
    | ok failure? => exact iff_of_true ⟨_, rfl⟩ ⟨⟨_, rfl⟩, ⟨_, rfl⟩⟩

theorem lookup_allFields_own (h : name ∈ [stackName, failureName]) (document now : Text)
    (e : Event) : (allFields document now e).lookup name = given? name e := by
  have hown : (∀ v, isSpent (name, v) = false) ∧ name ∉ writerNames ∧ name ≠ documentName := by
    simp only [List.mem_cons, List.not_mem_nil, or_false] at h
    rcases h with rfl | rfl <;> exact ⟨fun v => rfl, by decide, by decide⟩
  rw [lookup_allFields_eq hown.1 hown.2.1, if_neg fun hd => hown.2.2 hd.2]

theorem exists_lines_iff {isJson : Bool} :
    (∃ t, lines isJson document now e = .ok t) ↔ Suits isJson e := by
  cases isJson with
  | true => exact iff_of_true ⟨_, rfl⟩ (.inl rfl)
  | false =>
    show (∃ t, plainLines (allFields document now e) = .ok t) ↔ _
    rw [exists_plainLines_iff]
    simp only [Suits, Bool.false_eq_true, false_or]
    refine forall_congr' fun name => forall_congr' fun hn => ?_
    rw [exists_ownLines?_iff, lookup_allFields_own hn]

end Journal
end DfaTable
