import DfaTable.Proofs.Files.Reading
import DfaTable.Proofs.Settings.Loading

/-!
# DfaTable.Proofs.Settings.Faults

Where loading settings has no answer: neither settings nor an error of them, but a fault that breaks
the run off.

* `ofValue_eq_error_iff`, `validate_eq_error_iff`: which values and which settings do so.
* `loaded_eq_error_iff`: all ways in which loading is broken off.
* `exists_breaksOff_of_decode`: a short file that is not UTF-8 always does that.
-/

namespace DfaTable

open Text Files

namespace Settings

/-! ## Values -/

theorem answers_partsOf (v : Value) : (partsOf v).Answers := by
  unfold partsOf
  split
  · exact .pure _
  · exact .throw _

theorem answers_section? (name : String) (entries : List (Value × Value)) :
    (section? name entries).Answers := by
  unfold section?
  dsimp only
  split
  · exact .pure _
  · exact answers_partsOf _

theorem answers_textOf (v : Value) : (textOf v).Answers := by
  unfold textOf
  split
  · exact .pure _
  · exact .throw _

theorem answers_integerOfText (t shown : Text) : (integerOfText t shown).Answers := by
  unfold integerOfText
  split
  · exact .pure _
  · exact .throw _
  · exact .throw _

/-- Only an infinite number is neither an integer nor refused. -/
theorem integerOf_eq_error_iff {v : Value} {f : Fault} : (integerOf v).run = .error f ↔
    f = .infinite ∧ ∃ x, v = .real x ∧ Real.truncate x = .error .infinite := by
  constructor
  · intro h
    unfold integerOf at h
    split at h
    · cases h
    · cases h
    · split at h
      · cases h
      · cases h
      · cases h
        exact ⟨rfl, _, rfl, by assumption⟩
    · exact absurd h (answers_integerOfText _ _ _)
    · exact absurd h (answers_integerOfText _ _ _)
    · exact absurd h (answers_integerOfText _ _ _)
    · cases h
  · rintro ⟨rfl, x, rfl, hx⟩
    unfold integerOf
    simp only [hx]
    rfl

def atomicOf : Value → Check Bool
  | .bool b => return b
  | v =>
    match v.quoted? with
    | some t =>
      throw { field := "output.atomic".toList
              message := "Must be true or false, got ".toList ++ t }
    | none => throw (shapeError Fault.tooLongToWrite.message)

theorem answers_atomicOf (v : Value) : (atomicOf v).Answers := by
  unfold atomicOf
  split
  · exact .pure _
  · split
    · exact .throw _
    · exact .throw _

/-- The draft of a value without the exit code, and the parts among which that is. -/
def sectionsOf (v : Value) : Check (List (Value × Value) × Draft) := do
  let entries ← partsOf v
  let logging ← section? "logging" entries
  let level ← textOf (part "level" (.text "info".toList) logging)
  let format ← textOf (part "format" (.text "text".toList) logging)
  let output ← section? "output" entries
  let isAtomic ← atomicOf (part "atomic" (.bool true) output)
  let existing ← textOf (part "existing_output" (.text "truncate".toList) output)
  let encoding ← textOf (part "encoding" (.text "utf-8".toList) output)
  return (entries, { usageExitCode := 0, level, format, existing, encoding, isAtomic })

theorem answers_sectionsOf (v : Value) : (sectionsOf v).Answers :=
  .bind (answers_partsOf _) fun _ => .bind (answers_section? _ _) fun _ =>
    .bind (answers_textOf _) fun _ => .bind (answers_textOf _) fun _ =>
    .bind (answers_section? _ _) fun _ => .bind (answers_atomicOf _) fun _ =>
    .bind (answers_textOf _) fun _ => .bind (answers_textOf _) fun _ => .pure _

/-- The exit code is looked at last. -/
theorem ofValue_eq (v : Value) : Draft.ofValue v = do
    let (entries, d) ← sectionsOf v
    let usageExitCode ← integerOf (part "usage_exit_code" (.int 0) entries)
    return { d with usageExitCode } := by
  unfold Draft.ofValue sectionsOf
  simp only [bind_assoc, pure_bind]
  refine bind_congr fun entries => bind_congr fun logging => bind_congr fun level =>
    bind_congr fun format => bind_congr fun output => ?_
  generalize part "atomic" (.bool true) output = a
  cases a with
  | bool b => rfl
  | _ =>
    unfold atomicOf
    dsimp only
    generalize Value.quoted? _ = t
    cases t <;> rfl

theorem ofValue_eq_error_iff {v : Value} {f : Fault} : (Draft.ofValue v).run = .error f ↔
    f = .infinite ∧ ∃ p x, (sectionsOf v).run = .ok (.ok p) ∧
      part "usage_exit_code" (.int 0) p.1 = .real x ∧ Real.truncate x = .error .infinite := by
  rw [ofValue_eq, Attempt.run_bind_eq_error_iff]
  constructor
  · rintro (h | ⟨p, hp, h⟩)
    · exact absurd h (answers_sectionsOf v f)
    · rcases Attempt.run_bind_eq_error_iff.1 h with h | ⟨n, -, h⟩
      · obtain ⟨rfl, x, hx, ht⟩ := integerOf_eq_error_iff.1 h
        exact ⟨rfl, p, x, hp, hx, ht⟩
      · cases h
  · rintro ⟨rfl, p, x, hp, hx, ht⟩
    refine .inr ⟨p, hp, Attempt.run_bind_eq_error_iff.2 (.inl ?_)⟩
    exact integerOf_eq_error_iff.2 ⟨rfl, x, hx, ht⟩

end Settings

/-! ## Checks -/

namespace Draft

open Settings

theorem answers_checkText (field : String) (message : Text) (accepts : Text → Bool)
    (t : WideText) : (checkText field message accepts t).Answers := by
  unfold checkText
  split
  · exact .pure _
  · exact .throw _

theorem checkExitCode_of_mem {n : Int} (h : 0 ≤ n ∧ n ≤ 255) :
    (checkExitCode n).run = .ok (.ok ()) := by
  unfold checkExitCode
  rw [if_pos (by simpa using h)]
  rfl

theorem checkExitCode_of_write {n : Int} {t : Text} (h : ¬(0 ≤ n ∧ n ≤ 255))
    (ht : Numeral.write? n = some t) : (checkExitCode n).run =
      .ok (.error { field := "usage_exit_code".toList
                    message := "Must be between 0 and 255, got ".toList ++ t }) := by
  unfold checkExitCode
  rw [if_neg (by simpa using h)]
  simp only [ht]
  rfl

theorem checkExitCode_of_not_write {n : Int} (h : ¬(0 ≤ n ∧ n ≤ 255))
    (hw : Numeral.write? n = none) : (checkExitCode n).run = .error .tooLongToWrite := by
  unfold checkExitCode
  rw [if_neg (by simpa using h)]
  simp only [hw]
  rfl

theorem checkExitCode_eq_ok_iff {n : Int} {u : Unit} :
    (checkExitCode n).run = .ok (.ok u) ↔ 0 ≤ n ∧ n ≤ 255 := by
  refine ⟨fun hok => ?_, checkExitCode_of_mem⟩
  refine Decidable.of_not_not fun h => ?_
  cases hw : Numeral.write? n with
  | none => cases (checkExitCode_of_not_write h hw).symm.trans hok
  | some t => cases (checkExitCode_of_write h hw).symm.trans hok

/-- An exit code that no process has is told in the error, unless it is too long for that. -/
theorem checkExitCode_eq_error_iff {n : Int} {f : Fault} : (checkExitCode n).run = .error f ↔
    f = .tooLongToWrite ∧ ¬(0 ≤ n ∧ n ≤ 255) ∧ Numeral.write? n = none := by
  constructor
  · intro herr
    have h : ¬(0 ≤ n ∧ n ≤ 255) := by
      intro h
      cases (checkExitCode_of_mem h).symm.trans herr
    cases hw : Numeral.write? n with
    | none =>
      cases (checkExitCode_of_not_write h hw).symm.trans herr
      exact ⟨rfl, h, rfl⟩
    | some t => cases (checkExitCode_of_write h hw).symm.trans herr
  · rintro ⟨rfl, h, hw⟩
    exact checkExitCode_of_not_write h hw

/-- A name of an encoding that cannot even be looked up, or names what nothing is written in. -/
inductive NamesNone (t : WideText) : Fault → Prop where
  | half : t.text? = none → NamesNone t (.halves t)
  | null {name : Text} : t = name.wide → '\x00' ∈ name → NamesNone t .nullCharacter
  | undefined {name : Text} : t = name.wide → '\x00' ∉ name →
      Encoding.named name = .encoding .undefined → NamesNone t (.undefinedEncoding name)

theorem checkEncoding_eq_error_iff {t : WideText} {f : Fault} :
    (checkEncoding t).run = .error f ↔ NamesNone t f := by
  constructor
  · intro h
    unfold checkEncoding at h
    split at h
    · next ht =>
      cases h
      exact .half ht
    · next name ht =>
      have ht := WideText.text?_eq_some_iff.1 ht
      split at h
      · next hn =>
        cases h
        exact .null ht (by simpa using hn)
      · next hn =>
        split at h
        · next he =>
          cases h
          exact .undefined ht (by simpa using hn) he
        all_goals cases h
  · intro h
    unfold checkEncoding
    cases h with
    | half ht => rw [ht]; rfl
    | null ht hn =>
      rw [ht, WideText.text?_wide]
      simp only [List.contains_iff_mem, hn, if_true]
      rfl
    | undefined ht hn he =>
      rw [ht, WideText.text?_wide]
      simp only [List.contains_iff_mem, hn, if_false, he]
      rfl

/-- The words in a draft are known ones. -/
structure HasKnownWords (d : Draft) : Prop where
  existing : ∃ t : Text, d.existing = t.wide ∧ t ∈ existingPolicies
  level : ∃ t : Text, d.level = t.wide ∧ t.lower ∈ levels
  format : ∃ t : Text, d.format = t.wide ∧ t.lower ∈ formats

/-- A draft of which a check is broken off. Those before it have passed. -/
inductive Unchecked (d : Draft) : Fault → Prop where
  | exitCode : d.HasKnownWords → ¬(0 ≤ d.usageExitCode ∧ d.usageExitCode ≤ 255) →
      Numeral.write? d.usageExitCode = none → Unchecked d .tooLongToWrite
  | encoding {f : Fault} : d.HasKnownWords → 0 ≤ d.usageExitCode ∧ d.usageExitCode ≤ 255 →
      NamesNone d.encoding f → Unchecked d f

/-- A check of a word is never broken off, so what is behind it is. -/
theorem checkText_bind_eq_error_iff {α : Type} {field : String} {message : Text}
    {accepts : Text → Bool} {t : WideText} {k : Text → Check α} {f : Fault} :
    (checkText field message accepts t >>= k).run = .error f ↔
      ∃ word, (t = word.wide ∧ accepts word = true) ∧ (k word).run = .error f := by
  simp only [Attempt.run_bind_eq_error_iff, checkText_eq_ok_iff,
    iff_false_intro (answers_checkText field message accepts t f), false_or]

theorem validate_eq_error_iff {d : Draft} {f : Fault} :
    d.validate.run = .error f ↔ Unchecked d f := by
  unfold validate
  simp only [checkText_bind_eq_error_iff, List.contains_iff_mem]
  simp only [Attempt.run_bind_eq_error_iff, checkExitCode_eq_error_iff, checkExitCode_eq_ok_iff,
    checkEncoding_eq_error_iff]
  constructor
  · rintro ⟨existing, he, level, hl, format, hf, h⟩
    have hw : d.HasKnownWords := ⟨⟨existing, he⟩, ⟨level, hl⟩, ⟨format, hf⟩⟩
    rcases h with ⟨rfl, hn, hwrite⟩ | ⟨_, hn, hc | ⟨_, -, hc⟩⟩
    · exact .exitCode hw hn hwrite
    · exact .encoding hw hn hc
    · cases hc
  · rintro (⟨⟨⟨_, he⟩, ⟨_, hl⟩, ⟨_, hf⟩⟩, hn, hwrite⟩ | ⟨⟨⟨_, he⟩, ⟨_, hl⟩, ⟨_, hf⟩⟩, hn, hc⟩)
    · exact ⟨_, he, _, hl, _, hf, .inl ⟨rfl, hn, hwrite⟩⟩
    · exact ⟨_, he, _, hl, _, hf, .inr ⟨(), hn, .inl hc⟩⟩

end Draft

namespace Settings

open Draft

/-! ## Files -/

theorem graphOfBytes_eq_error_iff {bytes : List UInt8} {f : Fault} :
    (graphOfBytes bytes).run = .error f ↔
      Yaml.read (readText bytes).text
        ((readText bytes).flaw.map fun b => .fault (.undecodable b)) = .error (.fault f) := by
  unfold graphOfBytes
  dsimp only
  generalize Yaml.read _ _ = r
  cases r with
  | ok g => exact iff_of_false nofun nofun
  | error x =>
    cases x with
    | malformed => exact iff_of_false nofun nofun
    | fault g =>
      constructor
      · intro h
        cases h
        rfl
      · intro h
        cases h
        rfl

/-- A mapping with an infinite number for the exit code, and nothing wrong before that. -/
def HasInfiniteCode (g : Yaml.Graph) : Prop :=
  ∃ entries p x, g.entries? g.root = some entries ∧
    (sectionsOf (view g entries)).run = .ok (.ok p) ∧
    part "usage_exit_code" (.int 0) p.1 = .real x ∧ Real.truncate x = .error .infinite

theorem ofBytes_eq_error_iff {bytes : List UInt8} {f : Fault} : (ofBytes bytes).run = .error f ↔
    (graphOfBytes bytes).run = .error f ∨
      f = .infinite ∧ ∃ g, (graphOfBytes bytes).run = .ok (.ok g) ∧ HasInfiniteCode g := by
  unfold ofBytes
  rw [Attempt.run_bind_eq_error_iff]
  refine or_congr_right ?_
  constructor
  · rintro ⟨g, hg, h⟩
    split at h
    · next entries he =>
      obtain ⟨rfl, p, x, hp, hx, ht⟩ := ofValue_eq_error_iff.1 h
      exact ⟨rfl, g, hg, entries, p, x, he, hp, hx, ht⟩
    · split at h
      · -- Without parts, the exit code is the usual one.
        obtain ⟨-, p, x, hp, hx, -⟩ := ofValue_eq_error_iff.1 h
        cases hp
        cases hx
      · cases h
  · rintro ⟨rfl, g, hg, entries, p, x, he, hp, hx, ht⟩
    refine ⟨g, hg, ?_⟩
    rw [he]
    exact ofValue_eq_error_iff.2 ⟨rfl, p, x, hp, hx, ht⟩

/-- The bytes of a settings file that is neither loaded nor refused. -/
inductive BreaksOff (bytes : List UInt8) : Fault → Prop where
  | unread {f : Fault} : (graphOfBytes bytes).run = .error f → (∀ t, f ≠ .file t) →
      BreaksOff bytes f
  | infinite {g : Yaml.Graph} : (graphOfBytes bytes).run = .ok (.ok g) → HasInfiniteCode g →
      BreaksOff bytes .infinite
  | unchecked {d : Draft} {f : Fault} : (ofBytes bytes).run = .ok (.ok d) → Unchecked d f →
      BreaksOff bytes f

theorem answered_eq_error_iff {α : Type} {a : Check α} {f : Fault} :
    (answered a).run = .error f ↔ a.run = .error f ∧ ∀ t, f ≠ .file t := by
  unfold answered
  split
  · next t ht =>
    rw [ht]
    refine ⟨fun h => (nomatch h), ?_⟩
    rintro ⟨h, hf⟩
    cases h
    exact absurd rfl (hf t)
  · next hn =>
    refine ⟨fun h => ⟨h, ?_⟩, fun h => h.1⟩
    rintro t rfl
    exact hn t h

theorem answered_eq_ok_iff {α : Type} {a : Check α} {x : α} :
    (answered a).run = .ok (.ok x) ↔ a.run = .ok (.ok x) := by
  unfold answered
  split
  · next t ht =>
    rw [ht]
    exact iff_of_false nofun nofun
  · exact .rfl

/-- All ways in which loading the settings of a directory has no answer. -/
inductive Breaks (w : Workspace) (directory : Path) : Fault → Prop where
  | unseen {f : Fault} : w.look (directory.child fileName) = .error f → Breaks w directory f
  | file {bytes : List UInt8} {f : Fault} :
      w.found? (directory.child fileName) = some (.file bytes) → BreaksOff bytes f →
      Breaks w directory f

/-- Where a draft comes from is not checked. -/
theorem unchecked_directory {d : Draft} {directory : Option Text} {f : Fault} :
    Unchecked { d with directory } f ↔ Unchecked d f := by
  constructor
  · rintro (⟨⟨he, hl, hf⟩, hn, hw⟩ | ⟨⟨he, hl, hf⟩, hn, hc⟩)
    · exact .exitCode ⟨he, hl, hf⟩ hn hw
    · exact .encoding ⟨he, hl, hf⟩ hn hc
  · rintro (⟨⟨he, hl, hf⟩, hn, hw⟩ | ⟨⟨he, hl, hf⟩, hn, hc⟩)
    · exact .exitCode ⟨he, hl, hf⟩ hn hw
    · exact .encoding ⟨he, hl, hf⟩ hn hc

theorem checked_file_eq_error_iff {directory : Path} {bytes : List UInt8} {f : Fault} :
    (checked (ofDirectory directory (some (.file bytes)))).run = .error f ↔ BreaksOff bytes f := by
  unfold checked ofDirectory
  simp only [Attempt.run_bind_eq_error_iff, Attempt.run_bind_eq_ok_iff]
  constructor
  · rintro ((h | ⟨d, -, h⟩) | ⟨d, ⟨d', h, hd⟩, hv⟩)
    · obtain ⟨h, hf⟩ := answered_eq_error_iff.1 h
      rcases ofBytes_eq_error_iff.1 h with h | ⟨rfl, g, hg, hi⟩
      · exact .unread h hf
      · exact .infinite hg hi
    · cases h
    · cases hd
      exact .unchecked (answered_eq_ok_iff.1 h) (unchecked_directory.1 (validate_eq_error_iff.1 hv))
  · intro h
    cases h with
    | unread hg hf =>
      exact .inl (.inl (answered_eq_error_iff.2 ⟨ofBytes_eq_error_iff.2 (.inl hg), hf⟩))
    | infinite hg hi =>
      exact .inl (.inl (answered_eq_error_iff.2
        ⟨ofBytes_eq_error_iff.2 (.inr ⟨rfl, _, hg, hi⟩), by simp⟩))
    | unchecked hd hu =>
      exact .inr ⟨_, ⟨_, answered_eq_ok_iff.2 hd, rfl⟩,
        validate_eq_error_iff.2 (unchecked_directory.2 hu)⟩

theorem loaded_eq_error_iff {w : Workspace} {directory : Path} {f : Fault} :
    loaded w directory = .error f ↔ Breaks w directory f := by
  unfold loaded
  constructor
  · intro h
    cases hl : w.look (directory.child fileName) with
    | error g =>
      rw [hl] at h
      cases h
      exact .unseen hl
    | ok e? =>
      rw [hl] at h
      cases e? with
      | none => cases h
      | some e =>
        cases e with
        | directory => cases h
        | file bytes => exact .file (Workspace.look_eq_ok hl) (checked_file_eq_error_iff.1 h)
  · intro h
    cases h with
    | unseen hl => rw [hl]; rfl
    | file hf hb =>
      rw [Workspace.look_of_found? hf]
      exact checked_file_eq_error_iff.2 hb

/-! ## Files that are not UTF-8 -/

theorem read_of_cut {t : Text} (h : t.length < 2 * Yaml.blockSize) (f : Fault) :
    Yaml.read t (some (.fault f)) = .error (.fault f) := by
  have hcursor : Yaml.Cursor.ofText t (some (.fault f)) = { rest := [], cut := some (.fault f) } := by
    unfold Yaml.Cursor.ofText
    simp [h]
  unfold Yaml.read
  rw [hcursor]
  rfl

/-- A file of one piece that is not UTF-8 is found so before anything else about it. -/
theorem exists_breaksOff_of_decode {bytes : List UInt8} {b : Encoding.Utf8.Broken}
    (hl : bytes.length ≤ pieceSize) (h : Encoding.Utf8.decode bytes = .error b) :
    ∃ flaw, BreaksOff bytes (.undecodable flaw) := by
  obtain ⟨flaw, hflaw, ht⟩ := exists_flaw_readText hl h
  refine ⟨flaw, .unread (graphOfBytes_eq_error_iff.2 ?_) (by simp)⟩
  rw [hflaw]
  exact read_of_cut ht _

end Settings
end DfaTable
