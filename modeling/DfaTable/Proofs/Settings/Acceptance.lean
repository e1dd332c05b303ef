import DfaTable.Proofs.Settings.Faults
import DfaTable.Proofs.Settings.Lookup
import DfaTable.Proofs.Settings.Requirements
import DfaTable.Proofs.Text.Lowercase

/-!
# DfaTable.Proofs.Settings.Acceptance

Which mappings settings are taken from. All that is asked of a mapping stands in one list
(`requirements`), in the order in which it is looked at, though one half of it is asked where the
values are taken and the other half where they are checked.

* `demands_checked`: what taking and checking settings demands, step by step.
* `exists_checked_iff`: a mapping is accepted if it meets the requirements.
* `verdict_of_mapping`: what comes of a mapping, the settings in it or the first requirement that
  fails, and that nothing else in the mapping matters.
-/

namespace DfaTable

open Text

namespace Settings

open Draft

/-! ## What is asked of a mapping -/

/-- The values under a name of a section, which is empty if it is absent. -/
def sectionAt (name : String) (entries : List (Value × Value)) : List (Value × Value) :=
  match part name .null entries with
  | .map es => es
  | _ => []

/-- A section is a mapping or counts as absent. -/
def IsSection (name : String) (entries : List (Value × Value)) : Prop :=
  (part name .null entries).isAbsent = true ∨ ∃ es, part name .null entries = .map es

/-- The text of what is under a name. -/
def textAt (name usual : String) (entries : List (Value × Value)) : Option WideText :=
  (part name (.text usual.toList) entries).wide?

/-- What is under a name holds no integer that is too long to be written. -/
def IsWritable (name : String) (entries : List (Value × Value)) : Prop :=
  ∀ v, Value.get? name.toList entries = some v → v.quoted?.isSome = true

/-- Whether tables are replaced as a whole. -/
def HasFlag (entries : List (Value × Value)) (b : Bool) : Prop :=
  part "atomic" (.bool true) (sectionAt "output" entries) = .bool b

/-- The integer that the exit code is converted to. -/
def HasCode (entries : List (Value × Value)) (n : Int) : Prop :=
  (integerOf (part "usage_exit_code" (.int 0) entries)).run = .ok (.ok n)

section
variable (entries : List (Value × Value))

def levelAt : Option WideText := textAt "level" "info" (sectionAt "logging" entries)

def formatAt : Option WideText := textAt "format" "text" (sectionAt "logging" entries)

def existingAt : Option WideText := textAt "existing_output" "truncate" (sectionAt "output" entries)

def encodingAt : Option WideText := textAt "encoding" "utf-8" (sectionAt "output" entries)

/-- What is asked where the settings are checked. -/
def checkRequirements : List Requirement :=
  [⟨"output.existing_output",
      ∃ t : Text, existingAt entries = some t.wide ∧
        (t = "truncate".toList ∨ t = "append".toList)⟩,
    ⟨"logging.level", ∃ t : Text, levelAt entries = some t.wide ∧ lowercase t ∈ levels⟩,
    ⟨"logging.format", ∃ t : Text, formatAt entries = some t.wide ∧ lowercase t ∈ formats⟩,
    ⟨"usage_exit_code", ∃ n, HasCode entries n ∧ 0 ≤ n ∧ n ≤ 255⟩,
    ⟨"output.encoding", ∃ t : Text, encodingAt entries = some t.wide ∧ NamesEncoding t⟩]

/-- All that is asked of a mapping. -/
def requirements : List Requirement :=
  [⟨"unknown", IsSection "logging" entries⟩,
    ⟨"unknown", IsSection "output" entries⟩,
    ⟨"output.atomic", ∃ b, HasFlag entries b⟩,
    ⟨"unknown", ∃ n, HasCode entries n⟩] ++ checkRequirements entries

/-- What is asked where the values are taken, of each of them first that it can be written. -/
def valueRequirements : List Requirement :=
  let logging := sectionAt "logging" entries
  let output := sectionAt "output" entries
  [⟨"unknown", IsSection "logging" entries⟩,
    ⟨"unknown", IsWritable "level" logging⟩, ⟨"unknown", IsWritable "format" logging⟩,
    ⟨"unknown", IsSection "output" entries⟩,
    ⟨"unknown", IsWritable "atomic" output⟩, ⟨"output.atomic", ∃ b, HasFlag entries b⟩,
    ⟨"unknown", IsWritable "existing_output" output⟩, ⟨"unknown", IsWritable "encoding" output⟩]

/-- The requirements, with those for the texts of the values among them. -/
def allRequirements : List Requirement :=
  valueRequirements entries ++ [⟨"unknown", ∃ n, HasCode entries n⟩] ++ checkRequirements entries

/-- No setting in a section holds an integer that is too long to be written. -/
structure HasWritableValues : Prop where
  level : IsWritable "level" (sectionAt "logging" entries)
  format : IsWritable "format" (sectionAt "logging" entries)
  atomic : IsWritable "atomic" (sectionAt "output" entries)
  existing : IsWritable "existing_output" (sectionAt "output" entries)
  encoding : IsWritable "encoding" (sectionAt "output" entries)

/-- A draft with the values in the sections of a mapping, which is not read from a directory. A
missing value is the usual one. -/
structure HoldsSections (d : Draft) : Prop where
  level : levelAt entries = some d.level
  format : formatAt entries = some d.format
  existing : existingAt entries = some d.existing
  encoding : encodingAt entries = some d.encoding
  isAtomic : HasFlag entries d.isAtomic
  directory : d.directory = none

/-- A draft with the values of a mapping. -/
structure Holds (d : Draft) : Prop extends HoldsSections entries d where
  exitCode : HasCode entries d.usageExitCode

/-- The mappings on which taking or checking settings is broken off. -/
inductive Stops : Fault → Prop where
  | infinite {x : Float} : part "usage_exit_code" (.int 0) entries = .real x →
      Real.truncate x = .error .infinite → Stops .infinite
  | exitCode {n : Int} : HasCode entries n → ¬(0 ≤ n ∧ n ≤ 255) → Numeral.write? n = none →
      Stops .tooLongToWrite
  | encoding {t : WideText} {f : Fault} : encodingAt entries = some t → NamesNone t f → Stops f

end

/-! ## Taking the values -/

variable {entries : List (Value × Value)} {name usual : String} {d : Draft} {n : Int}

theorem isWritable_iff (usual : Value) (hu : usual.quoted?.isSome = true) :
    IsWritable name entries ↔ (part name usual entries).quoted?.isSome = true := by
  unfold part IsWritable
  cases Value.get? name.toList entries <;> simp [hu]

theorem isSome_wide? (v : Value) : v.wide?.isSome = v.quoted?.isSome := by
  cases v with
  | text | torn | day | moment => rfl
  | _ => simp only [Value.wide?, Option.isSome_map]

theorem textAt_isSome_iff :
    (textAt name usual entries).isSome = true ↔ IsWritable name entries := by
  unfold textAt
  rw [isSome_wide?, isWritable_iff (.text usual.toList) rfl]

theorem isWritable_of_textAt {t : WideText} (h : textAt name usual entries = some t) :
    IsWritable name entries :=
  textAt_isSome_iff.1 (Option.isSome_of_eq_some h)

theorem demands_section? (name : String) (entries : List (Value × Value)) :
    Demands (section? name entries) [⟨"unknown", IsSection name entries⟩]
      (· = sectionAt name entries) := by
  unfold section? IsSection sectionAt
  generalize part name .null entries = v
  dsimp only
  split
  · next ha =>
    refine .met (.inl ha) (.pure ?_)
    cases v with
    | map es => exact (List.isEmpty_iff.1 ha).symm
    | _ => rfl
  · next ha =>
    cases v with
    | map es => exact .met (.inr ⟨es, rfl⟩) (.pure rfl)
    | _ => exact .throw rfl (not_or.2 ⟨ha, nofun⟩)

theorem demands_textOf (name usual : String) (entries : List (Value × Value)) :
    Demands (textOf (part name (.text usual.toList) entries))
      [⟨"unknown", IsWritable name entries⟩] (textAt name usual entries = some ·) := by
  have hw := @textAt_isSome_iff entries name usual
  unfold textAt at hw ⊢
  unfold textOf
  split
  · next t ht => exact .met (hw.1 (by rw [ht]; rfl)) (.pure ht)
  · next ht =>
    rw [ht] at hw
    exact .throw rfl fun h => nomatch hw.2 h

theorem demands_atomicOf (entries : List (Value × Value)) :
    Demands (atomicOf (part "atomic" (.bool true) entries))
      [⟨"unknown", IsWritable "atomic" entries⟩,
        ⟨"output.atomic", ∃ b, part "atomic" (.bool true) entries = .bool b⟩]
      (part "atomic" (.bool true) entries = .bool ·) := by
  have hw := @isWritable_iff entries "atomic" (.bool true) rfl
  generalize part "atomic" (.bool true) entries = v at hw ⊢
  unfold atomicOf
  split
  · next b => exact .met (hw.2 rfl) (.met ⟨b, rfl⟩ (.pure rfl))
  · next hb =>
    have hflag : ¬∃ b, v = .bool b := fun ⟨b, h⟩ => hb b h
    split
    · next t ht => exact .met (hw.2 (by rw [ht]; rfl)) (.throw rfl hflag)
    · next ht =>
      rw [ht] at hw
      exact .throw rfl fun h => nomatch hw.1 h

theorem field_of_integerOfText {t shown : Text} {e : SettingsError}
    (h : (integerOfText t shown).run = .ok (.error e)) : e.field = "unknown".toList := by
  unfold integerOfText at h
  split at h
  · cases h
  · cases h
    rfl
  · cases h
    rfl

theorem field_of_integerOf {v : Value} {e : SettingsError}
    (h : (integerOf v).run = .ok (.error e)) : e.field = "unknown".toList := by
  unfold integerOf at h
  split at h
  · cases h
  · cases h
  · split at h
    · cases h
    · cases h
      rfl
    · cases h
  · exact field_of_integerOfText h
  · exact field_of_integerOfText h
  · exact field_of_integerOfText h
  · cases h
    rfl

theorem demands_sectionsOf (entries : List (Value × Value)) :
    Demands (sectionsOf (.map entries)) (valueRequirements entries)
      fun p => p.1 = entries ∧ HoldsSections entries p.2 := by
  refine (Demands.pure (rfl : entries = entries)).bind ?_
  rintro _ rfl
  refine (demands_section? "logging" _).bind ?_
  rintro _ rfl
  refine (demands_textOf "level" "info" _).bind fun level hl => ?_
  refine (demands_textOf "format" "text" _).bind fun format hf => ?_
  refine (demands_section? "output" _).bind ?_
  rintro _ rfl
  refine (demands_atomicOf _).bind fun isAtomic ha => ?_
  refine (demands_textOf "existing_output" "truncate" _).bind fun existing he => ?_
  refine (demands_textOf "encoding" "utf-8" _).bind fun encoding hc => ?_
  exact .pure ⟨rfl, hl, hf, he, hc, ha, rfl⟩

theorem demands_ofValue (entries : List (Value × Value)) :
    Demands (ofValue (.map entries))
      (valueRequirements entries ++ [⟨"unknown", ∃ n, HasCode entries n⟩]) (Holds entries) := by
  rw [ofValue_eq]
  refine (demands_sectionsOf entries).bind ?_
  rintro ⟨_, d⟩ ⟨rfl, h⟩
  refine (Demands.single .rfl field_of_integerOf).bind fun n hn => ?_
  exact .pure ⟨⟨h.level, h.format, h.existing, h.encoding, h.isAtomic, h.directory⟩, hn⟩

/-! ## Checking them -/

theorem HasCode.unique {m : Int} (hn : HasCode entries n) (hm : HasCode entries m) : n = m := by
  cases hn.symm.trans hm
  rfl

theorem exists_hasCode_iff {p : Int → Prop} (h : HasCode entries n) :
    (∃ m, HasCode entries m ∧ p m) ↔ p n := by
  constructor
  · rintro ⟨m, hm, hp⟩
    rwa [h.unique hm]
  · exact fun hp => ⟨n, h, hp⟩

theorem field_of_checkExitCode {e : SettingsError}
    (h : (checkExitCode n).run = .ok (.error e)) : e.field = "usage_exit_code".toList := by
  unfold checkExitCode at h
  split at h
  · cases h
  · split at h
    · cases h
      rfl
    · cases h

theorem demands_checkExitCode (n : Int) :
    Demands (checkExitCode n) [⟨"usage_exit_code", 0 ≤ n ∧ n ≤ 255⟩]
      fun u => (checkExitCode n).run = .ok (.ok u) := by
  refine .single ?_ field_of_checkExitCode
  simp only [checkExitCode_eq_ok_iff, exists_const]

theorem not_namesNone {name : Text} {f : Fault} (h : NamesEncoding name) :
    ¬NamesNone name.wide f := by
  have hok : (checkEncoding name.wide).run = .ok (.ok name) := checkEncoding_eq_ok_iff.2 ⟨rfl, h⟩
  intro hnone
  cases hok.symm.trans (checkEncoding_eq_error_iff.2 hnone)

theorem field_of_checkEncoding {t : WideText} {e : SettingsError}
    (h : (checkEncoding t).run = .ok (.error e)) : e.field = "output.encoding".toList := by
  unfold checkEncoding at h
  split at h
  · cases h
  · split at h
    · cases h
    · split at h
      · cases h
      · cases h
      · cases h
        rfl
      · cases h
        rfl

theorem demands_checkEncoding (t : WideText) : Demands (checkEncoding t)
    [⟨"output.encoding", ∃ name : Text, t = name.wide ∧ NamesEncoding name⟩]
    (t = ·.wide) := by
  refine (Demands.single ?_ field_of_checkEncoding).imp fun name h => ?_
  · simp only [checkEncoding_eq_ok_iff]
  · exact (checkEncoding_eq_ok_iff.1 h).1

theorem field_of_checkText {field : String} {message : Text} {accepts : Text → Bool}
    {t : WideText} {e : SettingsError}
    (h : (checkText field message accepts t).run = .ok (.error e)) : e.field = field.toList := by
  unfold checkText at h
  split at h
  · cases h
  · cases h
    rfl

theorem demands_checkText {field : String} {message : Text} {accepts : Text → Bool}
    {p : Text → Prop} (hp : ∀ word, accepts word = true ↔ p word) (t : WideText) :
    Demands (checkText field message accepts t) [⟨field, ∃ word : Text, t = word.wide ∧ p word⟩]
      (t = ·.wide) := by
  refine (Demands.single (q := ⟨field, _⟩) ?_ field_of_checkText).imp fun word h => ?_
  · simp only [checkText_eq_ok_iff, hp]
  · exact (checkText_eq_ok_iff.1 h).1

theorem isOwnLower_levels : ∀ w ∈ levels, IsOwnLower w := by
  simp [levels, IsOwnLower]

theorem isOwnLower_formats : ∀ w ∈ formats, IsOwnLower w := by
  simp [formats, IsOwnLower]

theorem demands_validate (h : Holds entries d) :
    Demands d.validate (checkRequirements entries) fun s => Holds entries s.draft := by
  unfold validate checkRequirements
  simp only [h.existing, h.level, h.format, h.encoding, exists_hasCode_iff h.exitCode,
    Option.some.injEq, lowercase_mem_iff isOwnLower_levels, lowercase_mem_iff isOwnLower_formats]
  refine (demands_checkText (by simp [existingPolicies]) _).bind fun existing he => ?_
  refine (demands_checkText (by simp) _).bind fun level hl => ?_
  refine (demands_checkText (by simp) _).bind fun format hf => ?_
  refine (demands_checkExitCode _).bind fun _ _ => ?_
  refine (demands_checkEncoding _).bind fun encoding hc => ?_
  refine .pure ?_
  unfold Settings.draft
  rw [← he, ← hl, ← hf, ← hc]
  exact h

/-! ## Both -/

theorem demands_checked (entries : List (Value × Value)) :
    Demands (checked (ofValue (.map entries))) (allRequirements entries)
      fun s => Holds entries s.draft := by
  refine (demands_ofValue entries).bind fun d hd => ?_
  exact demands_validate hd

theorem stops_of_checked {f : Fault} (h : (checked (ofValue (.map entries))).run = .error f) :
    Stops entries f := by
  rcases Attempt.run_bind_eq_error_iff.1 h with h | ⟨d, hd, h⟩
  · obtain ⟨rfl, p, x, hp, hx, ht⟩ := ofValue_eq_error_iff.1 h
    obtain ⟨-, he, -⟩ := (demands_sectionsOf entries).ok hp
    rw [he] at hx
    exact .infinite hx ht
  · obtain ⟨-, hholds⟩ := (demands_ofValue entries).ok hd
    cases validate_eq_error_iff.1 h with
    | exitCode _ hr hw => exact .exitCode hholds.exitCode hr hw
    | encoding _ _ hn => exact .encoding hholds.encoding hn

section
variable (h : ∀ q ∈ requirements entries, q.holds)
include h

/-- Values that meet the requirements are not too long to be written. -/
theorem hasWritableValues_of_requirements : HasWritableValues entries := by
  simp only [requirements, checkRequirements, List.cons_append, List.nil_append,
    List.forall_mem_cons] at h
  obtain ⟨-, -, ⟨b, hb⟩, -, ⟨existing, he, -⟩, ⟨level, hl, -⟩, ⟨format, hf, -⟩, -,
    ⟨encoding, hc, -⟩, -⟩ := h
  have hatomic : IsWritable "atomic" (sectionAt "output" entries) := by
    refine (isWritable_iff (.bool true) rfl).2 ?_
    rw [hb]
    rfl
  exact ⟨isWritable_of_textAt hl, isWritable_of_textAt hf, hatomic, isWritable_of_textAt he,
    isWritable_of_textAt hc⟩

theorem not_stops_of_requirements {f : Fault} : ¬Stops entries f := by
  simp only [requirements, checkRequirements, List.cons_append, List.nil_append,
    List.forall_mem_cons] at h
  obtain ⟨-, -, -, ⟨n, hn⟩, -, -, -, ⟨m, hm, hr⟩, ⟨t, ht, hc⟩, -⟩ := h
  rintro (⟨hx, hi⟩ | ⟨hk, hk', -⟩ | ⟨ht', hnone⟩)
  · cases hn.symm.trans (integerOf_eq_error_iff.2 ⟨rfl, _, hx, hi⟩)
  · exact hk' (hm.unique hk ▸ hr)
  · cases ht.symm.trans ht'
    exact not_namesNone hc hnone

end

theorem requirements_sublist (entries : List (Value × Value)) :
    (requirements entries).Sublist (allRequirements entries) :=
  .cons_cons _ <| .cons _ <| .cons _ <| .cons_cons _ <| .cons _ <| .cons_cons _ <| .cons _ <|
    .cons _ <| .cons_cons _ <| .refl _

/-- Without integers that are too long, the texts of values decide about nothing. -/
theorem firstFails_allRequirements_iff (h : HasWritableValues entries) {field : Text} :
    FirstFails (allRequirements entries) field ↔ FirstFails (requirements entries) field := by
  simp only [allRequirements, valueRequirements, requirements, List.cons_append, List.nil_append,
    firstFails_cons_iff, h.level, h.format, h.atomic, h.existing, h.encoding, not_true,
    false_and, false_or, true_and]

theorem forall_allRequirements_iff :
    (∀ q ∈ allRequirements entries, q.holds) ↔ ∀ q ∈ requirements entries, q.holds := by
  constructor
  · exact fun h q hq => h q ((requirements_sublist entries).subset hq)
  · intro h
    have hw := hasWritableValues_of_requirements h
    simp only [requirements, List.cons_append, List.nil_append, List.forall_mem_cons] at h
    simp only [allRequirements, valueRequirements, List.cons_append, List.nil_append,
      List.forall_mem_cons, hw.level, hw.format, hw.atomic, hw.existing, hw.encoding, true_and]
    exact h

/-- A mapping that meets the requirements is accepted. -/
theorem exists_checked_iff : (∃ s, (checked (ofValue (.map entries))).run = .ok (.ok s)) ↔
    ∀ q ∈ requirements entries, q.holds := by
  have hd := demands_checked entries
  rw [← forall_allRequirements_iff]
  constructor
  · rintro ⟨s, hs⟩
    exact (hd.ok hs).1
  · intro h
    cases hr : (checked (ofValue (.map entries))).run with
    | error f =>
      exact absurd (stops_of_checked hr)
        (not_stops_of_requirements (forall_allRequirements_iff.1 h))
    | ok r =>
      cases r with
      | ok s => exact ⟨s, rfl⟩
      | error e => exact absurd h (hd.error hr).not_forall

/-- A mapping is accepted if it meets the requirements, and the settings have its values. An error
names the first requirement that fails; texts of values come into it only with integers that are too
long. It makes no difference in which order the keys stand and which other keys there are. -/
theorem verdict_of_mapping (entries : List (Value × Value)) :
    let verdict := (checked (ofValue (.map entries))).run
    ((∃ s, verdict = .ok (.ok s)) ↔ ∀ q ∈ requirements entries, q.holds) ∧
      (∀ s, verdict = .ok (.ok s) → Holds entries s.draft) ∧
      (∀ e, verdict = .ok (.error e) → FirstFails (allRequirements entries) e.field ∧
        (HasWritableValues entries → FirstFails (requirements entries) e.field)) ∧
      (∀ f, verdict = .error f → Stops entries f) ∧
      ∀ others, Alike entries others → (checked (ofValue (.map others))).run = verdict := by
  have hd := demands_checked entries
  refine ⟨exists_checked_iff, fun s hs => (hd.ok hs).2, fun e he => ?_,
    fun f hf => stops_of_checked hf, fun others ho => ?_⟩
  · exact ⟨hd.error he, fun hw => (firstFails_allRequirements_iff hw).1 (hd.error he)⟩
  · rw [ofValue_congr ho]

/-- A mapping that is accepted, the same settings in another order among other keys, a mapping with
two settings that are refused, and one with a name that no encoding can have. -/
theorem verdict_of_mapping_shuffled :
    let level := (Value.text "level".toList, Value.text "WARN".toList)
    let code := (Value.text "usage_exit_code".toList, Value.text " 6_4".toList)
    let logging := Value.text "logging".toList
    let output := Value.text "output".toList
    let entries := [code, (logging, .map [level])]
    let others := [(.int 5, .null), (logging, .map [(.null, .null), level]), code]
    let refused := [(output, .map [(.text "encoding".toList, .text "base64".toList)]),
      (logging, .map [(.text "format".toList, .null)])]
    let unnamed := [(output, Value.map [(.text "encoding".toList, .text ['\x00'])])]
    (Alike entries others ∧
      (checked (ofValue (.map others))).run = (checked (ofValue (.map entries))).run) ∧
    ((∀ q ∈ requirements entries, q.holds) ∧
      ∃ s, (checked (ofValue (.map entries))).run = .ok (.ok s) ∧ Holds entries s.draft) ∧
    (HasWritableValues refused ∧ ∃ e, (checked (ofValue (.map refused))).run = .ok (.error e) ∧
      FirstFails (requirements refused) e.field) ∧
    (checked (ofValue (.map unnamed))).run = .error .nullCharacter ∧
      Stops unnamed .nullCharacter := by
  intro level code logging output entries others refused unnamed
  obtain ⟨haccept, hholds, -, -, halike⟩ := verdict_of_mapping entries
  obtain ⟨-, -, herror, -, -⟩ := verdict_of_mapping refused
  obtain ⟨-, -, -, hstop, -⟩ := verdict_of_mapping unnamed
  have hlevel : AlikeSection ["level", "format"] (.map [level]) (.map [(.null, .null), level]) :=
    .map (by decide) (by decide) fun name _ => by simp [AlikeAt, level]
  have hothers : Alike entries others := by
    refine ⟨by decide, by decide, ?_, ?_, ?_⟩
    · simp [AlikeAt, entries, others, code, logging]
    · simpa [AlikeAt, entries, others, code, logging] using hlevel
    · simp [AlikeAt, entries, others, code, logging]
  have hrequired : ∀ q ∈ requirements entries, q.holds := by
    simp only [requirements, checkRequirements, List.cons_append, List.nil_append,
      List.forall_mem_cons]
    exact ⟨.inr ⟨_, rfl⟩, .inl rfl, ⟨true, rfl⟩, ⟨64, rfl⟩, ⟨_, rfl, .inl rfl⟩,
      ⟨_, rfl, by decide⟩, ⟨_, rfl, by decide⟩, ⟨64, rfl, by decide⟩,
      ⟨_, rfl, by decide, _, rfl, nofun⟩, List.forall_mem_nil _⟩
  have hwritable : HasWritableValues refused := by
    constructor <;> exact (isWritable_iff .null rfl).2 rfl
  obtain ⟨s, hs⟩ := haccept.2 hrequired
  exact ⟨⟨hothers, halike others hothers⟩, ⟨hrequired, s, hs, hholds s hs⟩,
    ⟨hwritable, _, rfl, (herror _ rfl).2 hwritable⟩, rfl, hstop _ rfl⟩

end Settings
end DfaTable
