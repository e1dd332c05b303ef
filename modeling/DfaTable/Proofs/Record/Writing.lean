import DfaTable.Proofs.Encoding.Ascii
import DfaTable.Proofs.Files.Replacement

/-!
# DfaTable.Proofs.Record.Writing

What writing records to a file comes to with settings that can be used, where no number is too long.
`Writes` has one rule for each outcome: either the file has all of the lines, behind what is kept of
it, or no file was changed.
-/

namespace DfaTable

open Files

/-- Text can be written with these settings, in this encoding. -/
structure OutputSettings.IsFor (s : OutputSettings) (e : Encoding) : Prop where
  named : Encoding.named s.encoding = .encoding e
  ne_undefined : e ≠ .undefined
  notNull : '\x00' ∉ s.encoding

namespace Record

variable {w : Workspace} {p : Path} {records : List Record} {s : OutputSettings} {e : Encoding}

/-- The bytes of a file behind whose old bytes records were written. -/
def fileBytes (e : Encoding) (old : List UInt8) (records : List Record) : List UInt8 :=
  old ++ (e.encodeAll (.opened old.isEmpty) (spelledLines records)).1

/-- What stays of a file that records are written to. -/
def keptOf (s : OutputSettings) (e? : Option Entry) : List UInt8 :=
  keptBytes (s.existing = appending) e?

/-- A new directory above a path. -/
def IsAbove (w : Workspace) (p : Path) (q : Place) (e : Entry) : Prop :=
  e = .directory ∧ q ∈ w.trail p.parent

/-- What writing records comes to. -/
inductive Writes (w : Workspace) (p : Path) (records : List Record) (s : OutputSettings)
    (e : Encoding) : Except Fault Nat → Tree → Prop where
  | written {t : Tree} : Tree.Grows (IsAbove w p) w.files t → (w.on t).seek p = .ok (w.goal p) →
      t.find? (w.goal p) ≠ some .directory →
      Writes w p records s e (.ok records.length) (t.put (w.goal p)
        (.file (fileBytes e (keptOf s (t.find? (w.goal p))) records)))
  | refused {f : Fault} {t : Tree} : Tree.Grows (IsAbove w p) w.files t →
      (w.Fits p → ∃ x, f = .file x) → Writes w p records s e (.error f) t
  | notReplaced {cause : Text} {t : Tree} : Tree.Grows (IsAbove w p) w.files t →
      Writes w p records s e (.error (.replacement p.write cause)) t

/-- The lines of records can be written in every encoding that writes anything. -/
theorem exists_writes_spelledLines (h : s.IsFor e) (records : List Record) (isEmpty : Bool) :
    ∃ bytes f, e.Writes (.opened isEmpty) (spelledLines records) bytes f :=
  Encoding.exists_writes_of_isPlain h.ne_undefined (isPlain_spelledLines records) isEmpty

theorem encoded_content (h : s.IsFor e) (hr : ∀ r ∈ records, r.IsShort) (isEmpty : Bool) :
    (content records).encoded s.encoding isEmpty =
      ((e.encodeAll (.opened isEmpty) (spelledLines records)).1, none) := by
  obtain ⟨bytes, f, hw⟩ := exists_writes_spelledLines h records isEmpty
  rw [content_of_isShort hr, Content.encoded, encodingOf_of_named h.named]
  simp [Encoding.encodeAll_of_writes hw]

theorem grows_haveDirectories {r : Except Fault Unit} {t : Tree}
    (h : (haveDirectories p.parent).Ends w r t) : Tree.Grows (IsAbove w p) w.files t :=
  grows_of_haveDirectories h

/-- The records are written to the file itself, behind what is kept of it. -/
theorem ends_writeInPlace (h : s.IsFor e) (hr : ∀ r ∈ records, r.IsShort) (w : Workspace)
    (p : Path) :
    ∃ r t, (Files.write p (s.existing = appending) s.encoding (content records)).Ends w r t ∧
      Writes w p records s e (r.map fun _ => records.length) t := by
  cases hq : w.seek p with
  | error f =>
    refine ⟨_, _, ends_write_error h.notNull hq _ _, .refused (.refl _) fun hf => ?_⟩
    exact Workspace.seek_error hf.hasNull hq
  | ok q =>
    obtain ⟨rfl, -⟩ := Workspace.goal_of_locate (Workspace.seek_eq_ok_iff.1 hq).2
    by_cases hd : w.files.find? (w.goal p) = some .directory
    · exact ⟨_, _, ends_write_directory h.notNull hq hd _ _, .refused (.refl _) fun _ => ⟨_, rfl⟩⟩
    · have hw := ends_write_file h.notNull hq hd (s.existing = appending) (content records)
      dsimp only at hw
      rw [encoded_content h hr] at hw
      exact ⟨_, _, hw, .written (.refl _) hq hd⟩

/-- The file is replaced by one with the records. -/
theorem ends_writeReplacing (h : s.IsFor e) (hr : ∀ r ∈ records, r.IsShort)
    (hs : s.existing ≠ appending) (w : Workspace) (p : Path) :
    ∃ r t, (replace p s.encoding (content records)).Ends w r t ∧
      Writes w p records s e (r.map fun _ => records.length) t := by
  obtain ⟨r, t, ht, hr'⟩ := ends_replace w p s.encoding (content records)
  refine ⟨r, t, ht, ?_⟩
  cases hr' with
  | noDirectory hd =>
    refine .refused (grows_haveDirectories hd) fun hf => ?_
    obtain ⟨r, hd', hm⟩ := ends_haveDirectories hf.parent
    obtain ⟨rfl, rfl⟩ := hd.unique hd'
    cases hm with
    | blocked => exact ⟨_, rfl⟩
  | noDraft hd hq =>
    exact .refused (grows_haveDirectories hd) fun hf =>
      Workspace.seek_error (Draft.hasNull_path (hf.on _)) hq
  | failed hd => exact .notReplaced (grows_haveDirectories hd)
  | replaced hd hc hq hf =>
    rw [encoded_content h hr] at hc
    cases hc
    have hw : Writes w p records s e _ _ := .written (grows_haveDirectories hd) hq hf
    simpa [keptOf, hs, fileBytes, Except.map] using hw

/-- Behind the writing there is only the report of it. -/
theorem ends_reported {m : Work Unit} {r : Except Fault Unit} {t : Tree} (h : m.Ends w r t)
    (change : Journal → Journal) (n : Nat) :
    (m >>= fun _ => Work.onJournal change >>= fun _ => pure n).Ends w (r.map fun _ => n) t := by
  cases r with
  | error f => exact h.bind_error
  | ok u => exact h.bind (.bind (.onJournal change) (.pure n))

theorem ends_writeAll (h : s.IsFor e) (hr : ∀ r ∈ records, r.IsShort) (w : Workspace) (p : Path) :
    ∃ r t, (writeAll p records s).Ends w r t ∧ Writes w p records s e r t := by
  unfold writeAll
  by_cases hs : s.existing = appending
  · obtain ⟨r, t, ht, hw⟩ := ends_writeInPlace h hr w p
    rw [decide_eq_true hs] at ht
    refine ⟨_, t, ?_, hw⟩
    rw [if_pos hs]
    exact ends_reported ht _ _
  · cases ha : s.isAtomic with
    | true =>
      obtain ⟨r, t, ht, hw⟩ := ends_writeReplacing h hr hs w p
      refine ⟨_, t, ?_, hw⟩
      rw [if_neg hs]
      exact ends_reported ht _ _
    | false =>
      obtain ⟨r, t, ht, hw⟩ := ends_writeInPlace h hr w p
      rw [decide_eq_false hs] at ht
      refine ⟨_, t, ?_, hw⟩
      rw [if_neg hs]
      exact ends_reported ht _ _

theorem writes_of_ends {r : Except Fault Nat} {t : Tree} (h : s.IsFor e)
    (hr : ∀ r ∈ records, r.IsShort) (hw : (writeAll p records s).Ends w r t) :
    Writes w p records s e r t := by
  obtain ⟨r', t', hw', hwrites⟩ := ends_writeAll h hr w p
  obtain ⟨rfl, rfl⟩ := hw.unique hw'
  exact hwrites

end Record
end DfaTable
