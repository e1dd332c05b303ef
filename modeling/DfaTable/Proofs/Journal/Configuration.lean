import DfaTable.Proofs.Settings.Loading

/-!
# DfaTable.Proofs.Journal.Configuration

The journal under settings that can be used. The checks of the settings look at the level and the
form in lower case; the journal does so with the level, but takes the form as it is spelled.

* `lower_threshold_mem_severities`: the threshold is always the one that the level names.
* `isJson_eq_of_texts_probe`: the two forms are told apart by one event.
* `texts_configure_lower_iff`: so the spelling makes a difference just where a form that means JSON
  is not in lower case.
-/

namespace DfaTable
namespace Journal

open Text

/-- What the levels that settings may ask for mean. -/
def severities : List (Text × Severity) :=
  [("debug".toList, .debug), ("info".toList, .info), ("warn".toList, .warning),
    ("warning".toList, .warning), ("error".toList, .error)]

/-- The other form that settings may ask for. -/
def plainWord : Text := "text".toList

/-- A call that sets the document or reports an event. -/
def Call.IsUse : Call → Prop
  | configure .. => False
  | setDocument _ | clearDocument | report _ => True

/-! ## The threshold -/

theorem map_fst_severities : severities.map Prod.fst = Draft.levels := rfl

theorem thresholdOf_eq {level : Text} {s : Severity} (h : (lower level, s) ∈ severities) :
    thresholdOf level = s := by
  simp only [severities, List.mem_cons, Prod.mk.injEq, List.not_mem_nil, or_false] at h
  unfold thresholdOf
  rcases h with ⟨h, rfl⟩ | ⟨h, rfl⟩ | ⟨h, rfl⟩ | ⟨h, rfl⟩ | ⟨h, rfl⟩ <;> rw [h] <;> decide

/-- Accepted levels name their threshold; none of them falls back on the usual one. -/
theorem lower_threshold_mem_severities {level : Text} (h : lower level ∈ Draft.levels) :
    (lower level, thresholdOf level) ∈ severities := by
  rw [← map_fst_severities] at h
  obtain ⟨⟨l, s⟩, hs, rfl : l = lower level⟩ := List.mem_map.1 h
  rwa [thresholdOf_eq hs]

theorem lower_of_mem_levels {l : Text} (h : l ∈ Draft.levels) : lower l = l := by
  revert l
  decide

theorem thresholdOf_lower {level : Text} (h : lower level ∈ Draft.levels) :
    thresholdOf (lower level) = thresholdOf level := by
  refine thresholdOf_eq ?_
  rw [lower_of_mem_levels h]
  exact lower_threshold_mem_severities h

/-! ## The form -/

/-- An event that passes every threshold. -/
def probe : Event where
  severity := .error
  source := ['s']
  name := ['e']
  fields := []

theorem passes_probe (threshold : Severity) : passes threshold probe = true := by
  cases threshold <;> rfl

theorem trimEnd_concat {p : Char → Bool} {c : Char} (h : p c = false) (t : Text) :
    trimEnd p (t ++ [c]) = t ++ [c] := by
  simp [trimEnd, h]

theorem jsonLine_concat (fs : Fields) : ∃ t, jsonLine fs = t ++ [Value.closeBrace] := by
  unfold jsonLine
  rw [Json.compact]
  exact ⟨_, rfl⟩

theorem allFields_probe (now : Text) : allFields [] now probe =
    [("logger_name".toList, .text ['s']), ("event".toList, .text ['e']),
      ("level".toList, .text "error".toList), ("timestamp".toList, .text now)] := rfl

theorem firstLine_probe (now : Text) : firstLine (allFields [] now probe) =
    trimEnd (· == ' ') (join [' ']
      ([now, "[error    ]".toList, padRight ' ' 30 ['e'], ['[', 's', ']']].filter
        (!·.isEmpty))) := by
  rw [allFields_probe]
  simp [firstLine, column, List.lookup_cons, columnNames, Value.plain?, List.filter, bracketed,
    padRight, stackName]

/-- The plain line of the probe ends with its source, whatever the time is. -/
theorem firstLine_probe_concat (now : Text) :
    ∃ t, firstLine (allFields [] now probe) = t ++ [']'] := by
  rw [firstLine_probe]
  have hends : ∃ t, join [' '] ([now, "[error    ]".toList, padRight ' ' 30 ['e'],
      ['[', 's', ']']].filter (!·.isEmpty)) = t ++ [']'] := by
    cases now with
    | nil => exact ⟨"[error    ] ".toList ++ padRight ' ' 30 ['e'] ++ [' ', '[', 's'], rfl⟩
    | cons c now =>
      refine ⟨c :: now ++ [' '] ++ "[error    ] ".toList ++ padRight ' ' 30 ['e'] ++
        [' ', '[', 's'], ?_⟩
      simp [join, padRight]
  obtain ⟨t, ht⟩ := hends
  exact ⟨t, by rw [ht, trimEnd_concat (by decide)]⟩

/-- What the lines of the probe end with. -/
def lastOfProbe (isJson : Bool) : Char := if isJson then Value.closeBrace else ']'

theorem exists_lines_probe (isJson : Bool) (now : Text) :
    ∃ t, lines isJson [] now probe = .ok (t ++ [lastOfProbe isJson]) := by
  cases isJson with
  | true =>
    obtain ⟨t, ht⟩ := jsonLine_concat (allFields [] now probe)
    exact ⟨t, congrArg Except.ok ht⟩
  | false =>
    obtain ⟨t, ht⟩ := firstLine_probe_concat now
    refine ⟨t, ?_⟩
    -- No field of the probe has lines of its own.
    show Except.ok (firstLine (allFields [] now probe) ++ [] ++ [] ++ []) = _
    rw [List.append_nil, List.append_nil, List.append_nil, ht]
    rfl

theorem exists_texts_probe (j : Journal) : ∃ t,
    texts j [.clearDocument, .report probe] = .ok [[], t ++ [lastOfProbe j.isJson] ++ ['\n']] := by
  obtain ⟨t, ht⟩ := exists_lines_probe j.isJson j.now
  have hline : j.clearDocument.linesOf probe = .ok (t ++ [lastOfProbe j.isJson] ++ ['\n']) := by
    rw [linesOf, passes_probe, if_pos rfl]
    show Except.map _ (lines j.isJson [] j.now probe) = _
    rw [ht]
    rfl
  refine ⟨t, ?_⟩
  simp only [texts, Call.run, bind, Except.bind, pure, Except.pure]
  rw [hline]
  rfl

/-- The form can be read off the line of the probe. -/
theorem isJson_eq_of_texts_probe {j k : Journal}
    (h : texts j [.clearDocument, .report probe] = texts k [.clearDocument, .report probe]) :
    j.isJson = k.isJson := by
  obtain ⟨t, ht⟩ := exists_texts_probe j
  obtain ⟨u, hu⟩ := exists_texts_probe k
  have htexts : [[], t ++ [lastOfProbe j.isJson] ++ ['\n']] =
      [[], u ++ [lastOfProbe k.isJson] ++ ['\n']] :=
    Except.ok.inj (ht.symm.trans (h.trans hu))
  have hlast : lastOfProbe j.isJson = lastOfProbe k.isJson := by
    simp only [List.cons.injEq, true_and, and_true, List.append_cancel_right_eq] at htexts
    exact List.singleton_inj.1 (List.append_inj_right' htexts rfl)
  revert hlast
  cases j.isJson <;> cases k.isJson <;> decide

/-! ## Settings that can be used -/

theorem lower_eq_of_mem_formats {format : Text} (h : lower format ∈ Draft.formats) :
    lower format = jsonWord ∨ lower format = plainWord := by
  simpa [Draft.formats, jsonWord, plainWord] using h

theorem jsonWord_ne_plainWord : jsonWord ≠ plainWord := by decide

/-- With an accepted level, the journal is the one for the level in lower case and one of the two
forms; JSON is taken for no other spelling than `json`. -/
theorem configure_eq {level : Text} (h : lower level ∈ Draft.levels) (format : Text)
    (j : Journal) : j.configure level format =
      j.configure (lower level) (if format = jsonWord then jsonWord else plainWord) := by
  have hform : (format == jsonWord) =
      ((if format = jsonWord then jsonWord else plainWord) == jsonWord) := by
    by_cases hf : format = jsonWord
    · rw [if_pos hf, hf]
    · rw [if_neg hf, beq_eq_false_iff_ne.2 hf]
      exact (beq_eq_false_iff_ne.2 jsonWord_ne_plainWord.symm).symm
  unfold configure
  rw [thresholdOf_lower h, hform]

/-- In lower case, `json` stays as it is, and a form that means plain lines is none that is spelled
`json`. -/
theorem lower_eq_ite_of {format : Text} (h : format = jsonWord ∨ lower format = plainWord) :
    lower format = if format = jsonWord then jsonWord else plainWord := by
  have hjson : lower jsonWord = jsonWord := by decide
  rcases h with rfl | h
  · rw [if_pos rfl, hjson]
  · have hne : format ≠ jsonWord := by
      rintro rfl
      exact jsonWord_ne_plainWord (hjson.symm.trans h)
    rw [if_neg hne, h]

/-- Under accepted settings the threshold is the one that the level names in lower case, and only the
word `json` itself selects JSON lines; any other accepted form means plain ones. So what is written is
what is written for the level and the form in lower case if and only if the form is this very word,
or means plain lines. -/
theorem texts_configure_lower_iff {d : Draft} {s : Settings} (h : d.validate.run = .ok (.ok s))
    (j : Journal) :
    let configured := j.configure s.logging.level s.logging.format
    (lower s.logging.level, configured.threshold) ∈ severities ∧
    configured = j.configure (lower s.logging.level)
      (if s.logging.format = jsonWord then jsonWord else plainWord) ∧
    ((∀ calls : List Call, (∀ c ∈ calls, c.IsUse) →
        texts configured calls =
          texts (j.configure (lower s.logging.level) (lower s.logging.format)) calls) ↔
      s.logging.format = jsonWord ∨ lower s.logging.format = plainWord) := by
  obtain ⟨-, -, hl, hf, -⟩ := Draft.validate_eq_ok_iff.1 h
  refine ⟨lower_threshold_mem_severities hl, configure_eq hl _ j, fun htexts => ?_,
    fun hform calls _ => ?_⟩
  · refine (lower_eq_of_mem_formats hf).imp_left fun hjson => ?_
    have hprobe := htexts [.clearDocument, .report probe] (by simp [Call.IsUse])
    have hisJson : (s.logging.format == jsonWord) = (lower s.logging.format == jsonWord) :=
      isJson_eq_of_texts_probe hprobe
    rw [hjson, beq_self_eq_true] at hisJson
    exact beq_iff_eq.1 hisJson
  · rw [configure_eq hl, lower_eq_ite_of hform]

theorem texts_configure_lower_iff_usual :
    let s : Settings := {}
    let j : Journal := {}
    s.draft.validate.run = .ok (.ok s) ∧
    (let configured := j.configure s.logging.level s.logging.format
    (lower s.logging.level, configured.threshold) ∈ severities ∧
    configured = j.configure (lower s.logging.level)
      (if s.logging.format = jsonWord then jsonWord else plainWord) ∧
    ((∀ calls : List Call, (∀ c ∈ calls, c.IsUse) →
        texts configured calls =
          texts (j.configure (lower s.logging.level) (lower s.logging.format)) calls) ↔
      s.logging.format = jsonWord ∨ lower s.logging.format = plainWord)) := by
  have h : ({} : Settings).draft.validate.run = .ok (.ok {}) := by rfl
  exact ⟨h, texts_configure_lower_iff h {}⟩

/-- The form `JSON` is accepted, but gives plain lines. -/
theorem exists_texts_configure_ne_lower : ¬ ∀ (d : Draft) (s : Settings) (j : Journal)
    (calls : List Call), d.validate.run = .ok (.ok s) → (∀ c ∈ calls, c.IsUse) →
    texts (j.configure s.logging.level s.logging.format) calls =
      texts (j.configure (lower s.logging.level) (lower s.logging.format)) calls := by
  intro hall
  let s : Settings := { logging := { format := "JSON".toList } }
  have h : s.draft.validate.run = .ok (.ok s) := by rfl
  have htexts := hall s.draft s {} [.clearDocument, .report probe] h (by simp [Call.IsUse])
  exact absurd (isJson_eq_of_texts_probe htexts) (by decide)

end Journal
end DfaTable
