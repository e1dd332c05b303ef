import DfaTable.Files.Writing
import DfaTable.Proofs.Files.Asking

/-!
# DfaTable.Proofs.Files.Writing

What reading, writing and moving the file at a path come to.

* `Content.encoded`: what becomes of a content in an encoding: its bytes, and the fault behind them.
* `ends_write_file`: writing puts the bytes into the file, those before a fault included.
* `ends_move`: a file that cannot be moved stays where it is, and so does the one it was to replace.
-/

namespace DfaTable.Files

namespace Tree

variable {t : Tree} {q : Place} {e : Entry}

theorem putEntry_putEntry (q : Place) (e f : Entry) (es : List (Place × Entry)) :
    putEntry q f (putEntry q e es) = putEntry q f es := by
  induction es with
  | nil => simp [putEntry]
  | cons head rest ih =>
    obtain ⟨r, g⟩ := head
    by_cases h : q = r
    · simp [putEntry, h]
    · simp [putEntry, h, ih]

/-- The entry that is put last is the one that counts. -/
theorem put_put (t : Tree) (q : Place) (e f : Entry) : (t.put q e).put q f = t.put q f := by
  simp [put, putEntry_putEntry]

theorem putEntry_of_lookup {es : List (Place × Entry)} (h : es.lookup q = some e) :
    putEntry q e es = es := by
  induction es with
  | nil => cases h
  | cons head rest ih =>
    obtain ⟨r, f⟩ := head
    by_cases hr : q = r
    · subst hr
      simp at h
      simp [putEntry, h]
    · have hb : (q == r) = false := by simp [hr]
      rw [List.lookup_cons, hb] at h
      simp [putEntry, hr, ih h]

/-- Putting what is there already changes nothing. -/
theorem put_of_find? (hq : q ≠ []) (h : t.find? q = some e) : t.put q e = t := by
  rw [find?, if_neg hq] at h
  rw [put, putEntry_of_lookup h]

/-- Putting an entry adds no other place than its own. -/
theorem mem_places_put {p : Place} :
    p ∈ (t.put q e).entries.map Prod.fst ↔ p = q ∨ p ∈ t.entries.map Prod.fst := by
  show p ∈ (putEntry q e t.entries).map Prod.fst ↔ _
  induction t.entries with
  | nil => simp [putEntry]
  | cons head rest ih =>
    obtain ⟨r, f⟩ := head
    by_cases h : q = r
    · simp [putEntry, h]
    · simp only [putEntry, if_neg h, List.map_cons, List.mem_cons, ih]
      exact or_left_comm

theorem find?_put_self (t : Tree) (hq : q ≠ []) (e : Entry) : (t.put q e).find? q = some e := by
  rw [find?_put t hq, if_pos rfl]

/-- The bytes that are put into a file can be found in it. -/
theorem put_file_injective {a b : List UInt8} (hq : q ≠ [])
    (h : t.put q (.file a) = t.put q (.file b)) : a = b := by
  have hfile := find?_put_self t hq (.file a)
  rw [h, find?_put_self t hq, Option.some.injEq, Entry.file.injEq] at hfile
  exact hfile.symm

/-- A file is no directory, and is not in the way of one. -/
theorem find?_put_file_iff (hd : t.find? q ≠ some .directory) (bytes : List UInt8) (d : Place) :
    (t.put q (.file bytes)).find? d = some .directory ↔ t.find? d = some .directory := by
  rw [find?_put t (ne_nil_of_find? hd)]
  split
  · subst_vars
    simp [hd]
  · rfl

end Tree

/-- A file that was written leaves all paths where they lead. -/
theorem seek_put_file_iff {w : Workspace} {q g : Place} {p : Path}
    (hd : w.files.find? q ≠ some .directory) (bytes : List UInt8) :
    (w.on (w.files.put q (.file bytes))).seek p = .ok g ↔ w.seek p = .ok g := by
  rw [Workspace.seek_eq_ok_iff, Workspace.seek_eq_ok_iff]
  refine and_congr_right fun _ => ⟨fun hl => ?_, fun hl => ?_⟩
  · exact Workspace.locate_mono (w := w.on (w.files.put q (.file bytes)))
      (fun d => (Tree.find?_put_file_iff hd bytes d).1) hl
  · exact Workspace.locate_mono (fun d => (Tree.find?_put_file_iff hd bytes d).2) hl

/-! ## Reading -/

section
variable {w : Workspace} {p : Path} {q : Place} {bytes : List UInt8}

/-- The bytes at a path, or the fault of there being none. -/
def bytesAt (w : Workspace) (p : Path) : Except Fault (List UInt8) :=
  match w.seek p with
  | .error f => .error f
  | .ok q =>
    match w.files.find? q with
    | some (.file bytes) => .ok bytes
    | some .directory => .error (.file { refusal := .isDirectory, path := p.write })
    | none => .error (.file { refusal := .missing, path := p.write })

theorem ends_read (w : Workspace) (p : Path) : (read p).Ends w (bytesAt w p) w.files := by
  unfold bytesAt
  cases hs : w.seek p with
  | error f => exact ends_locate_bind_error hs
  | ok q =>
    refine ends_locate_bind hs (.get_bind fun j => ?_)
    dsimp only
    rcases w.files.find? q with _ | bytes | _
    · exact ends_refuse _ p
    · exact .pure bytes
    · exact ends_refuse _ p

theorem bytesAt_of_found? (h : w.found? p = some (.file bytes)) : bytesAt w p = .ok bytes := by
  obtain ⟨q, hq, hf⟩ := Workspace.found?_eq_some_iff.1 h
  simp [bytesAt, hq, hf]

/-! ## Writing -/

/-- A name of an encoding that files can be opened with. -/
structure IsKnown (encoding : Text) (e : Encoding) : Prop where
  notNull : '\x00' ∉ encoding
  named : encodingOf encoding = .ok e

/-- The word for the encoding of the place is no name of an encoding. -/
theorem named_localName : Encoding.named localName = .unknown := by decide +kernel

theorem encodingOf_of_named {name : Text} {e : Encoding} (h : Encoding.named name = .encoding e) :
    encodingOf name = .ok e := by
  have hne : name ≠ localName := by
    rintro rfl
    rw [named_localName] at h
    cases h
  rw [encodingOf, if_neg hne, h]

/-- The bytes of a content in a named encoding, up to the fault that ends them. -/
def Content.encoded (c : Content) (encoding : Text) (isEmpty : Bool) :
    List UInt8 × Option Fault :=
  match encodingOf encoding with
  | .error f => ([], some f)
  | .ok e =>
    let written := e.encodeAll (.opened isEmpty) c.texts
    (written.1, (written.2.map Fault.unwritable).or c.givenUp)

theorem IsKnown.encoded {encoding : Text} {e : Encoding} (h : IsKnown encoding e) (c : Content)
    (isEmpty : Bool) :
    c.encoded encoding isEmpty = ((e.encodeAll (.opened isEmpty) c.texts).1,
      ((e.encodeAll (.opened isEmpty) c.texts).2.map Fault.unwritable).or c.givenUp) := by
  rw [Content.encoded, h.named]

/-- The bytes that a file has when it is ready for writing. -/
def keptBytes (keep : Bool) : Option Entry → List UInt8
  | some (.file bytes) => if keep then bytes else []
  | _ => []

@[simp] theorem keptBytes_false (e? : Option Entry) : keptBytes false e? = [] := by
  rcases e? with _ | _ | _ <;> rfl

/-- A fault, if there is one, as the end of some work. -/
def endOf (f : Option Fault) : Except Fault Unit := f.elim (.ok ()) .error

theorem ends_ready (hq : w.seek p = .ok q) (hd : w.files.find? q ≠ some .directory) (keep : Bool) :
    (ready p keep).Ends w (.ok (q, keptBytes keep (w.files.find? q)))
      (w.files.put q (.file (keptBytes keep (w.files.find? q)))) := by
  refine ends_locate_bind hq (.get_bind fun j => ?_)
  dsimp only
  cases hf : w.files.find? q with
  | none => exact .bind (.put q (.file [])) (.pure (q, []))
  | some e =>
    cases e with
    | directory => exact absurd hf hd
    | file bytes =>
      cases keep with
      | false => exact .bind (.put q (.file [])) (.pure (q, []))
      | true =>
        have hne : q ≠ [] := by
          rintro rfl
          exact hd rfl
        have hp := Tree.put_of_find? hne hf
        show Work.Ends (Pure.pure (q, bytes)) w (.ok (q, bytes)) (w.files.put q (.file bytes))
        rw [hp]
        exact .pure (q, bytes)

theorem ends_write_file {encoding : Text} (hn : '\x00' ∉ encoding) (hq : w.seek p = .ok q)
    (hd : w.files.find? q ≠ some .directory) (keep : Bool) (c : Content) :
    let old := keptBytes keep (w.files.find? q)
    (write p keep encoding c).Ends w (endOf (c.encoded encoding old.isEmpty).2)
      (w.files.put q (.file (old ++ (c.encoded encoding old.isEmpty).1))) := by
  intro old
  have hnull : encoding.contains '\x00' = false := by simpa using hn
  unfold write
  rw [hnull]
  refine (ends_ready hq hd keep).bind ?_
  rw [Content.encoded]
  have hlift := Work.Ends.lift (w := w.on (w.files.put q (.file old))) (encodingOf encoding)
  cases hc : encodingOf encoding with
  | error f =>
    rw [hc] at hlift
    rw [List.append_nil]
    exact hlift.bind_error
  | ok e =>
    rw [hc] at hlift
    refine hlift.bind ?_
    dsimp only
    obtain ⟨bytes, trouble⟩ := e.encodeAll (.opened old.isEmpty) c.texts
    have hput := Work.Ends.put (w := w.on (w.files.put q (.file old))) q (.file (old ++ bytes))
    rw [Workspace.files_on, Tree.put_put] at hput
    refine hput.bind ?_
    cases trouble with
    | some u => exact .throw _
    | none =>
      cases c.givenUp with
      | some f => exact .throw _
      | none => exact .pure ()

/-- Writing, where the path leads to a file and the encoding is known. -/
theorem ends_write_known {encoding : Text} {e : Encoding} (hk : IsKnown encoding e)
    (hq : w.seek p = .ok q) (hd : w.files.find? q ≠ some .directory) (keep : Bool) (c : Content) :
    let old := keptBytes keep (w.files.find? q)
    let written := e.encodeAll (.opened old.isEmpty) c.texts
    (write p keep encoding c).Ends w
      (endOf ((written.2.map Fault.unwritable).or c.givenUp))
      (w.files.put q (.file (old ++ written.1))) := by
  have h := ends_write_file hk.notNull hq hd keep c
  dsimp only at h
  rwa [hk.encoded] at h

theorem ends_write_anew {encoding : Text} (hn : '\x00' ∉ encoding) (hq : w.seek p = .ok q)
    (hd : w.files.find? q ≠ some .directory) (c : Content) :
    (write p false encoding c).Ends w (endOf (c.encoded encoding true).2)
      (w.files.put q (.file (c.encoded encoding true).1)) := by
  have h := ends_write_file hn hq hd false c
  rw [keptBytes_false] at h
  exact h

theorem ends_write_error {encoding : Text} {f : Fault} (hn : '\x00' ∉ encoding)
    (hq : w.seek p = .error f) (keep : Bool) (c : Content) :
    (write p keep encoding c).Ends w (.error f) w.files := by
  have hnull : encoding.contains '\x00' = false := by simpa using hn
  unfold write ready
  rw [hnull]
  exact (ends_locate_bind_error hq).bind_error

theorem ends_write_directory {encoding : Text} (hn : '\x00' ∉ encoding) (hq : w.seek p = .ok q)
    (hd : w.files.find? q = some .directory) (keep : Bool) (c : Content) :
    (write p keep encoding c).Ends w
      (.error (.file { refusal := .isDirectory, path := p.write })) w.files := by
  have hnull : encoding.contains '\x00' = false := by simpa using hn
  unfold write ready
  rw [hnull]
  refine .bind_error (ends_locate_bind hq (.get_bind fun j => ?_))
  dsimp only
  rw [hd]
  exact ends_refuse _ p

theorem ends_write_null {encoding : Text} (hn : '\x00' ∈ encoding) (keep : Bool) (c : Content) :
    (write p keep encoding c).Ends w (.error .nullCharacter) w.files := by
  have hnull : encoding.contains '\x00' = true := by simpa using hn
  unfold write
  rw [hnull]
  exact .bind_error (.throw _)

/-! ## Taking away and moving -/

theorem ends_remove_file (hq : w.seek p = .ok q) (hf : w.files.find? q = some (.file bytes)) :
    (remove p).Ends w (.ok ()) (w.files.erase q) := by
  refine ends_locate_bind hq (.get_bind fun j => ?_)
  dsimp only
  rw [hf]
  exact .erase q

/-- Why a file cannot be moved to a path, where something speaks against it. -/
def moveRefusal? (w : Workspace) (target : Path) : Option Refusal :=
  match w.locate target with
  | .error r => some r
  | .ok goal =>
    if !target.endsInName then some .busy
    else if w.files.find? goal == some .directory then some .isDirectory
    else none

variable {target : Path}

theorem moveRefusal?_eq_none_iff :
    moveRefusal? w target = none ↔ w.locate target = .ok (w.goal target) ∧
      target.endsInName = true ∧ w.files.find? (w.goal target) ≠ some .directory := by
  unfold moveRefusal?
  cases hl : w.locate target with
  | error r => simp
  | ok goal =>
    obtain ⟨rfl, -⟩ := Workspace.goal_of_locate hl
    cases he : target.endsInName <;> simp

theorem ends_move_refused {r : Refusal} (hq : w.seek p = .ok q)
    (hf : w.files.find? q = some (.file bytes)) (hn : target.hasNull = false)
    (hr : moveRefusal? w target = some r) :
    (move p target).Ends w
      (.error (.file { refusal := r, path := p.write, target := some target.write })) w.files := by
  unfold move
  rw [hn]
  refine ends_locate_bind hq (.get_bind fun j => .get_bind fun j' => ?_)
  dsimp only
  rw [hf, Workspace.locate_journal]
  unfold moveRefusal? at hr
  cases ht : w.locate target with
  | error r' =>
    rw [ht] at hr
    cases hr
    exact .throw _
  | ok goal =>
    rw [ht] at hr
    dsimp only at hr ⊢
    split
    · rw [if_pos (by assumption)] at hr
      cases hr
      exact .throw _
    · rw [if_neg (by assumption)] at hr
      refine .get_bind fun k => ?_
      split at hr
      · cases hr
        rw [if_pos (by assumption)]
        exact .throw _
      · cases hr

theorem ends_move (hq : w.seek p = .ok q) (hf : w.files.find? q = some (.file bytes))
    (hn : target.hasNull = false) (hr : moveRefusal? w target = none) :
    w.seek target = .ok (w.goal target) ∧ w.files.find? (w.goal target) ≠ some .directory ∧
    (move p target).Ends w (.ok ()) ((w.files.erase q).put (w.goal target) (.file bytes)) := by
  obtain ⟨hl, he, hd⟩ := moveRefusal?_eq_none_iff.1 hr
  refine ⟨Workspace.seek_eq_ok_iff.2 ⟨hn, hl⟩, hd, ?_⟩
  unfold move
  rw [hn]
  refine ends_locate_bind hq (.get_bind fun j => .get_bind fun j' => ?_)
  dsimp only
  rw [hf, Workspace.locate_journal, hl]
  dsimp only
  rw [if_neg (by simp [he])]
  refine .get_bind fun k => ?_
  rw [if_neg (by simpa using hd)]
  exact .bind (.erase q) (.put _ _)

end

end DfaTable.Files
