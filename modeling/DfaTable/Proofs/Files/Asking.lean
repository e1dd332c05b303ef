import DfaTable.Proofs.Files.Way

/-!
# DfaTable.Proofs.Files.Asking

What the questions about a path come to, as answers that are known from the workspace. None of them
changes a file.

* `ends_locate`, `ends_find?`: a question has the answer that is written here.
* `look_of_fits`: a path that keeps to the limits is never refused.
* `found?_mono`: what is at a path stays there while nothing is changed or taken away.
-/

namespace DfaTable

open Files

namespace Workspace

variable {w : Workspace} {p : Path} {q : Place} {e : Entry} {t : Tree}

/-- The journal has no part in where a path leads. -/
theorem locate_journal (w : Workspace) (j : Journal) (p : Path) :
    ({ files := w.files, home := w.home, journal := j } : Workspace).locate p = w.locate p :=
  rfl

/-- The place of a path, or the fault of there being none. -/
def seek (w : Workspace) (p : Path) : Except Fault Place :=
  if p.hasNull then .error .nullByte
  else
    match w.locate p with
    | .ok place => .ok place
    | .error r => .error (.file { refusal := r, path := p.write })

/-- What is found at a path, or the fault of asking for it. -/
def look (w : Workspace) (p : Path) : Except Fault (Option Entry) :=
  if p.hasNull then .ok none
  else
    match w.locate p with
    | .ok place => .ok (w.files.find? place)
    | .error .missing | .error .notDirectory => .ok none
    | .error r => .error (.file { refusal := r, path := p.write })

theorem seek_eq_ok_iff : w.seek p = .ok q ↔ p.hasNull = false ∧ w.locate p = .ok q := by
  cases hn : p.hasNull <;> cases hl : w.locate p <;> simp [seek, hn, hl]

theorem seek_of_locate {r : Refusal} (hn : p.hasNull = false) (h : w.locate p = .error r) :
    w.seek p = .error (.file { refusal := r, path := p.write }) := by
  simp [seek, hn, h]

theorem seek_error {f : Fault} (hn : p.hasNull = false) (h : w.seek p = .error f) :
    ∃ x, f = .file x := by
  cases hl : w.locate p with
  | ok place => simp [seek, hn, hl] at h
  | error r =>
    rw [seek_of_locate hn hl] at h
    cases h
    exact ⟨_, rfl⟩

theorem goal_of_locate (h : w.locate p = .ok q) :
    q = w.goal p ∧ ∀ d ∈ (w.start p).way p.names, w.files.find? d = some .directory := by
  have hr := w.reach_locate p
  rw [h] at hr
  cases hr with
  | arrives hd => exact ⟨rfl, hd⟩

theorem look_eq_ok {e? : Option Entry} (h : w.look p = .ok e?) : w.found? p = e? := by
  unfold look at h
  unfold found?
  split at h
  · rw [if_pos (by assumption)]
    exact Except.ok.inj h
  · rw [if_neg (by assumption)]
    cases hl : w.locate p with
    | ok place =>
      rw [hl] at h
      exact Except.ok.inj h
    | error r =>
      rw [hl] at h
      cases r <;> first | exact Except.ok.inj h | cases h

theorem look_of_fits (h : w.Fits p) : w.look p = .ok (w.found? p) := by
  rw [look, found?, if_neg (by simp [h.hasNull]), if_neg (by simp [h.hasNull])]
  have hr := w.reach_locate p
  cases hl : w.locate p with
  | ok place => rfl
  | error r =>
    rw [hl] at hr
    cases hr with
    | missing => rfl
    | notDirectory => rfl
    | nameTooLong hn => exact absurd h hn

theorem found?_eq_some_iff :
    w.found? p = some e ↔ ∃ q, w.seek p = .ok q ∧ w.files.find? q = some e := by
  simp only [seek_eq_ok_iff, found?]
  cases p.hasNull <;> cases w.locate p <;> simp

theorem look_of_found? (h : w.found? p = some e) : w.look p = .ok (some e) := by
  obtain ⟨q, hq, hf⟩ := found?_eq_some_iff.1 h
  obtain ⟨hn, hl⟩ := seek_eq_ok_iff.1 hq
  simp [look, hn, hl, hf]

theorem found?_mono (hk : ∀ d e, w.files.find? d = some e → t.find? d = some e)
    (h : w.found? p = some e) : (w.on t).found? p = some e := by
  obtain ⟨q, hq, hf⟩ := found?_eq_some_iff.1 h
  obtain ⟨hn, hl⟩ := seek_eq_ok_iff.1 hq
  have hs : (w.on t).seek p = .ok q := seek_eq_ok_iff.2 ⟨hn, locate_mono (fun d => hk d _) hl⟩
  exact found?_eq_some_iff.2 ⟨q, hs, hk q e hf⟩

end Workspace

namespace Files

variable {w : Workspace} {p : Path}

theorem ends_refuse {α : Type} (r : Refusal) (p : Path) :
    (refuse r p : Work α).Ends w (.error (.file { refusal := r, path := p.write })) w.files :=
  .throw _

theorem ends_locate (w : Workspace) (p : Path) : (locate p).Ends w (w.seek p) w.files := by
  unfold locate Workspace.seek
  split
  · exact .bind_error (.throw _)
  · refine .get_bind fun j => ?_
    rw [Workspace.locate_journal]
    cases w.locate p with
    | ok place => exact .pure _
    | error r => exact ends_refuse r p

/-- Work that begins with the place of a path. -/
theorem ends_locate_bind {α : Type} {q : Place} {f : Place → Work α} {r : Except Fault α} {t : Tree}
    (h : w.seek p = .ok q) (hf : (f q).Ends w r t) : (locate p >>= f).Ends w r t := by
  have hl := ends_locate w p
  rw [h] at hl
  exact hl.bind hf

theorem ends_locate_bind_error {α : Type} {f : Place → Work α} {e : Fault}
    (h : w.seek p = .error e) : (locate p >>= f).Ends w (.error e) w.files := by
  have hl := ends_locate w p
  rw [h] at hl
  exact hl.bind_error

theorem ends_find? (w : Workspace) (p : Path) : (find? p).Ends w (w.look p) w.files := by
  unfold find? Workspace.look
  split
  · exact .pure _
  · refine .get_bind fun j => ?_
    rw [Workspace.locate_journal]
    cases w.locate p with
    | ok place => exact .pure _
    | error r => cases r <;> first | exact .pure _ | exact ends_refuse _ p

theorem ends_isThere (w : Workspace) (p : Path) :
    (isThere p).Ends w ((w.look p).map Option.isSome) w.files :=
  (ends_find? w p).map _

theorem ends_isDirectory (w : Workspace) (p : Path) :
    (isDirectory p).Ends w ((w.look p).map (· == some .directory)) w.files :=
  (ends_find? w p).map _

end Files
end DfaTable
