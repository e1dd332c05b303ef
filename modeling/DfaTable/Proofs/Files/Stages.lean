import DfaTable.Proofs.Files.Replacement
import Mathlib.Logic.Relation

/-!
# DfaTable.Proofs.Files.Stages

The replacing of a file step after step, with the tree that each step leaves.

* `Stage.Step`: one step of the replacing; every text is a step of its own.
* `Stage.Holds`: what holds between the steps. `Holds.step` is the step lemma, `Holds.steps` the run
  lemma.
* `Stage.steps_ended_iff`: the steps come to what `replace` comes to.
* `allOrNothing_replace`: the file is replaced, or the tree is as it was; before that the file stands
  as it was.
-/

namespace DfaTable.Files

/-- How far the replacing of a file has come. -/
inductive Stage where
  /-- The directories above the file are being made. -/
  | preparing
  /-- There is an empty draft. -/
  | drafted (draft : Path)
  /-- The draft is open, the encoder has come this far, and these texts are still to come. -/
  | writing (draft : Path) (e : Encoding) (f : Encoding.Stream) (texts : List Text)
  /-- There was a fault, and the draft is still there. -/
  | broken (draft : Path) (f : Fault)
  | ended (r : Except Fault Unit)

namespace Stage

/-- The stage behind the making of a draft. -/
def ofDraft : Except Fault Path → Stage
  | .ok draft => .drafted draft
  | .error f => .ended (.error f)

/-- The stage behind some work on a draft: this one, unless there was a fault. -/
def unlessBroken (draft : Path) (s : Stage) : Except Fault Unit → Stage
  | .ok () => s
  | .error f => .broken draft f

/-- One step of the replacing of a file, from one stage and tree to the next. -/
inductive Step (w : Workspace) (p : Path) (encoding : Text) (c : Content) :
    Stage × Tree → Stage × Tree → Prop where
  /-- A directory above the file that is missing is made. -/
  | directory {q : Place} {t : Tree} : q ∈ w.trail p.parent → t.find? q = none →
      Step w p encoding c (.preparing, t) (.preparing, t.put q .directory)
  | noDirectory {f : Fault} {t : Tree} : (haveDirectories p.parent).Ends w (.error f) t →
      Step w p encoding c (.preparing, t) (.ended (.error f), t)
  | draft {r : Except Fault Path} {t u : Tree} : (haveDirectories p.parent).Ends w (.ok ()) t →
      (Draft.make p).Ends (w.on t) r u → Step w p encoding c (.preparing, t) (ofDraft r, u)
  /-- The draft is opened for writing in the encoding. -/
  | opening {draft : Path} {e : Encoding} {t u : Tree} : IsKnown encoding e →
      (write draft false encoding { texts := [] }).Ends (w.on t) (.ok ()) u →
      Step w p encoding c (.drafted draft, t) (.writing draft e (.opened true) c.texts, u)
  | notOpened {draft : Path} {f : Fault} {t u : Tree} :
      (write draft false encoding { texts := [] }).Ends (w.on t) (.error f) u →
      Step w p encoding c (.drafted draft, t) (.broken draft f, u)
  /-- The next text is written behind those before it. -/
  | text {draft : Path} {q : Place} {e : Encoding} {f g : Encoding.Stream} {x : Text}
      {texts : List Text} {old bytes : List UInt8} {t : Tree} : (w.on t).seek draft = .ok q →
      t.find? q = some (.file old) → e.write f x = .ok (bytes, g) →
      Step w p encoding c (.writing draft e f (x :: texts), t)
        (.writing draft e g texts, t.put q (.file (old ++ bytes)))
  | unwritable {draft : Path} {e : Encoding} {f : Encoding.Stream} {x : Text} {texts : List Text}
      {u : Encoding.Unwritable} {t : Tree} : e.write f x = .error u →
      Step w p encoding c (.writing draft e f (x :: texts), t) (.broken draft (.unwritable u), t)
  | givingUp {draft : Path} {e : Encoding} {f : Encoding.Stream} {x : Fault} {t : Tree} :
      c.givenUp = some x → Step w p encoding c (.writing draft e f [], t) (.broken draft x, t)
  | move {draft : Path} {e : Encoding} {f : Encoding.Stream} {r : Except Fault Unit} {t u : Tree} :
      c.givenUp = none → (Files.move draft p).Ends (w.on t) r u →
      Step w p encoding c (.writing draft e f [], t) (unlessBroken draft (.ended (.ok ())) r, u)
  /-- The draft is taken away, and the fault is reported as one of the file. -/
  | clearing {draft : Path} {f : Fault} {t u : Tree} : (remove draft).Ends (w.on t) (.ok ()) u →
      Step w p encoding c (.broken draft f, t) (.ended (.error (.replacement p.write f.message)), u)

abbrev Steps (w : Workspace) (p : Path) (encoding : Text) (c : Content) :
    Stage × Tree → Stage × Tree → Prop :=
  Relation.ReflTransGen (Step w p encoding c)

variable {w : Workspace} {p : Path} {encoding : Text} {c : Content} {t u : Tree}
  {a b : Stage × Tree} {bytes : List UInt8}

/-! ## What a step does to the draft -/

section
variable (h : Draft.IsPossible w p)
include h

/-- Opening the draft leaves it empty. -/
theorem ends_open {e : Encoding} (hk : IsKnown encoding e) :
    (write (Draft.path w p) false encoding { texts := [] }).Ends
      (w.on (w.files.put (Draft.path w p).names (.file []))) (.ok ())
      (w.files.put (Draft.path w p).names (.file [])) := by
  have hw := h.ends_write hk.notNull { texts := [] }
  rwa [hk.encoded] at hw

/-- The encoding is known, or nothing at all can be written in it. -/
theorem isKnown_or_fails (encoding : Text) :
    (∃ e, IsKnown encoding e) ∨ ∃ f, ∀ c, (write (Draft.path w p) false encoding c).Ends
      (w.on (w.files.put (Draft.path w p).names (.file []))) (.error f)
      (w.files.put (Draft.path w p).names (.file [])) := by
  by_cases hn : '\x00' ∈ encoding
  · exact .inr ⟨_, fun c => ends_write_null hn false c⟩
  cases he : encodingOf encoding with
  | ok e => exact .inl ⟨e, hn, he⟩
  | error f =>
    refine .inr ⟨f, fun c => ?_⟩
    have hw := h.ends_write hn c
    rwa [Content.encoded, he] at hw

/-- A draft that cannot be moved stays where it is. -/
theorem exists_ends_move (bytes : List UInt8) :
    ∃ r v, (Files.move (Draft.path w p) p).Ends
      (w.on (w.files.put (Draft.path w p).names (.file bytes))) r v ∧
      ∀ f, r = .error f → v = w.files.put (Draft.path w p).names (.file bytes) := by
  have hfind := h.spot.find?_put (.file bytes)
  cases hr : moveRefusal? (w.on (w.files.put (Draft.path w p).names (.file bytes))) p with
  | some r => exact ⟨_, _, ends_move_refused (h.seek_put bytes) hfind h.hasNull hr, fun _ _ => rfl⟩
  | none =>
    obtain ⟨-, -, hmove⟩ := ends_move (h.seek_put bytes) hfind h.hasNull hr
    exact ⟨_, _, hmove, by simp⟩

theorem ends_remove (bytes : List UInt8) :
    (remove (Draft.path w p)).Ends (w.on (w.files.put (Draft.path w p).names (.file bytes)))
      (.ok ()) w.files := by
  have hremove := ends_remove_file (h.seek_put bytes) (h.spot.find?_put (.file bytes))
  rwa [Workspace.files_on, h.spot.erase_put] at hremove

end

/-! ## What holds between the steps -/

/-- What holds at a stage. `t` is always the tree that the draft was made in. -/
inductive Holds (w : Workspace) (p : Path) (encoding : Text) (c : Content) :
    Stage × Tree → Prop where
  | preparing {u : Tree} :
      Tree.Grows (fun q e => e = .directory ∧ q ∈ w.trail p.parent) w.files u →
      Holds w p encoding c (.preparing, u)
  | drafted {t : Tree} : HasRoom w p t →
      Holds w p encoding c (.drafted (Draft.path (w.on t) p),
        t.put (Draft.path (w.on t) p).names (.file []))
  /-- The draft has the bytes of the texts before, and the encoder stands behind them. -/
  | writing {t : Tree} {e : Encoding} {f : Encoding.Stream} {before texts : List Text}
      {bytes : List UInt8} : HasRoom w p t → IsKnown encoding e → c.texts = before ++ texts →
      e.Writes (.opened true) before bytes f →
      Holds w p encoding c (.writing (Draft.path (w.on t) p) e f texts,
        t.put (Draft.path (w.on t) p).names (.file bytes))
  | broken {t : Tree} {f : Fault} {bytes : List UInt8} : HasRoom w p t →
      (fill (Draft.path (w.on t) p) p encoding c).Ends
        (w.on (t.put (Draft.path (w.on t) p).names (.file []))) (.error f)
        (t.put (Draft.path (w.on t) p).names (.file bytes)) →
      Holds w p encoding c (.broken (Draft.path (w.on t) p) f,
        t.put (Draft.path (w.on t) p).names (.file bytes))
  | ended {r : Except Fault Unit} {u : Tree} : (replace p encoding c).Ends w r u →
      Holds w p encoding c (.ended r, u)

/-- The step lemma. -/
theorem Holds.step (h : Holds w p encoding c a) (hs : Step w p encoding c a b) :
    Holds w p encoding c b := by
  cases hs with
  | directory hq hn =>
    cases h with
    | preparing hg => exact .preparing (hg.trans (.put hn ⟨rfl, hq⟩))
  | noDirectory hd => exact .ended hd.bind_error
  | @draft r t u hd hm =>
    cases r with
    | error f => exact .ended (hd.bind hm.bind_error)
    | ok draft =>
      have hroom : HasRoom w p t := ⟨hd, _, _, hm⟩
      obtain ⟨hr, rfl⟩ := hm.unique hroom.isPossible.ends_make
      cases hr
      exact .drafted hroom
  | opening hk hw =>
    cases h with
    | drafted hroom =>
      obtain ⟨-, rfl⟩ := hw.unique (ends_open hroom.isPossible hk)
      exact .writing hroom hk rfl .nil
  | notOpened hw =>
    cases h with
    | drafted hroom =>
      rcases isKnown_or_fails hroom.isPossible encoding with ⟨e, hk⟩ | ⟨f, hf⟩
      · cases (hw.unique (ends_open hroom.isPossible hk)).1
      · obtain ⟨hr, rfl⟩ := hw.unique (hf _)
        cases hr
        exact .broken hroom (hf c).bind_error
  | @text draft q e f g x texts old more t hq hold hx =>
    cases h with
    | @writing t _ _ before _ bytes hroom hk hc hbefore =>
      have hd := hroom.isPossible
      -- The only file that is open is the draft.
      obtain rfl : (Draft.path (w.on t) p).names = q :=
        Except.ok.inj ((hd.seek_put bytes).symm.trans hq)
      have hfile := hd.spot.find?_put (.file bytes)
      obtain rfl : bytes = old := by simpa using hfile.symm.trans hold
      rw [Tree.put_put]
      have hall := hbefore.append (.cons hx .nil)
      rw [List.append_nil] at hall
      exact .writing hroom hk (by simp [hc]) hall
  | unwritable hx =>
    cases h with
    | writing hroom hk hc hbefore =>
      exact .broken hroom (hroom.isPossible.ends_write_of_error hk hc hbefore hx).bind_error
  | givingUp hg =>
    cases h with
    | @writing t _ _ before _ bytes hroom hk hc hbefore =>
      rw [← List.append_nil before, ← hc] at hbefore
      have hall := hroom.isPossible.ends_write_of_writes hk hbefore
      rw [hg] at hall
      exact .broken hroom hall.bind_error
  | @move draft e f r t u hg hm =>
    cases h with
    | @writing t _ _ before _ bytes hroom hk hc hbefore =>
      rw [← List.append_nil before, ← hc] at hbefore
      have hall := hroom.isPossible.ends_write_of_writes hk hbefore
      rw [hg] at hall
      cases r with
      | ok _ =>
        refine .ended (hroom.ready.bind (hroom.isPossible.ends_make.bind (.tryCatch ?_)))
        exact hall.bind (hm.bind (.onJournal _))
      | error f =>
        obtain ⟨r', v, hm', hv⟩ := exists_ends_move hroom.isPossible bytes
        obtain ⟨rfl, rfl⟩ := hm.unique hm'
        rw [hv f rfl] at hm ⊢
        exact .broken hroom (hall.bind hm.bind_error)
  | @clearing draft f t u hrem =>
    cases h with
    | @broken t _ bytes hroom hfill =>
      have hd := hroom.isPossible
      obtain ⟨-, rfl⟩ := hrem.unique (ends_remove hd bytes)
      refine .ended (hroom.ready.bind (hd.ends_make.bind ?_))
      exact hfill.tryCatch_error (ends_discard hd.spot bytes p f)

/-- The run lemma. -/
theorem Holds.steps (h : Holds w p encoding c a) (hs : Steps w p encoding c a b) :
    Holds w p encoding c b := by
  induction hs with
  | refl => exact h
  | tail _ hstep ih => exact ih.step hstep

theorem holds_of_steps (hs : Steps w p encoding c (.preparing, w.files) b) :
    Holds w p encoding c b :=
  (Holds.preparing (.refl _)).steps hs

/-! ## The steps come to an end -/

/-- Directories of a path that are missing are put one after the other. -/
def Adds (w : Workspace) (p : Path) (t u : Tree) : Prop :=
  ∃ q ∈ w.trail p, t.find? q = none ∧ u = t.put q .directory

/-- The steps until the directories are there, or cannot be. -/
theorem exists_steps_preparing (w : Workspace) (p : Path) (encoding : Text) (c : Content) :
    ∃ r t, (haveDirectories p.parent).Ends w r t ∧
      Steps w p encoding c (.preparing, w.files) (.preparing, t) := by
  have hmoves : Work.Moves w.home (Relation.ReflTransGen (Adds w p.parent))
      (haveDirectories p.parent) :=
    moves_haveDirectories fun q hq t ht => .single ⟨q, hq, ht, rfl⟩
  obtain ⟨r, t, ht, hadds⟩ := hmoves w rfl
  refine ⟨r, t, ht, hadds.lift (fun u => (Stage.preparing, u)) ?_⟩
  rintro u _ ⟨q, hq, hn, rfl⟩
  exact .directory hq hn

theorem exists_steps_broken (h : HasRoom w p t) (bytes : List UInt8) (f : Fault) :
    ∃ r u, Steps w p encoding c (.broken (Draft.path (w.on t) p) f,
      t.put (Draft.path (w.on t) p).names (.file bytes)) (.ended r, u) :=
  ⟨_, _, .single (.clearing (ends_remove h.isPossible bytes))⟩

theorem exists_steps_writing (h : HasRoom w p t) (bytes : List UInt8) (e : Encoding)
    (f : Encoding.Stream) (texts : List Text) :
    ∃ r u, Steps w p encoding c (.writing (Draft.path (w.on t) p) e f texts,
      t.put (Draft.path (w.on t) p).names (.file bytes)) (.ended r, u) := by
  induction texts generalizing bytes f with
  | nil =>
    cases hg : c.givenUp with
    | some x =>
      obtain ⟨r, u, hu⟩ := exists_steps_broken h bytes x
      exact ⟨r, u, .head (.givingUp hg) hu⟩
    | none =>
      obtain ⟨r, v, hm, hv⟩ := exists_ends_move h.isPossible bytes
      have hstep : Step w p encoding c (.writing (Draft.path (w.on t) p) e f [], _) _ := .move hg hm
      cases r with
      | ok _ => exact ⟨_, _, .single hstep⟩
      | error x =>
        rw [hv x rfl] at hstep
        obtain ⟨r, u, hu⟩ := exists_steps_broken h bytes x
        exact ⟨r, u, .head hstep hu⟩
  | cons x texts ih =>
    cases hx : e.write f x with
    | error u =>
      obtain ⟨r, u, hu⟩ := exists_steps_broken h bytes (.unwritable u)
      exact ⟨r, u, .head (.unwritable hx) hu⟩
    | ok written =>
      obtain ⟨more, g⟩ := written
      have hd := h.isPossible
      have hfile := hd.spot.find?_put (.file bytes)
      have hstep : Step w p encoding c (.writing _ e f (x :: texts), _) (.writing _ e g texts, _) :=
        .text (hd.seek_put bytes) hfile hx
      rw [Workspace.files_on, Tree.put_put] at hstep
      obtain ⟨r, u, hu⟩ := ih (bytes ++ more) g
      exact ⟨r, u, .head hstep hu⟩

theorem exists_steps (w : Workspace) (p : Path) (encoding : Text) (c : Content) :
    ∃ r u, Steps w p encoding c (.preparing, w.files) (.ended r, u) := by
  obtain ⟨r, t, ht, hsteps⟩ := exists_steps_preparing w p encoding c
  cases r with
  | error f => exact ⟨_, _, hsteps.tail (.noDirectory ht)⟩
  | ok _ =>
    cases hs : (w.on t).seek (Draft.path (w.on t) p) with
    | error f => exact ⟨_, _, hsteps.tail (.draft ht (Draft.ends_make_error hs))⟩
    | ok q =>
      have hroom := HasRoom.of_seek ht hs
      have hd := hroom.isPossible
      have hdraft := hsteps.tail (.draft ht hd.ends_make)
      rcases isKnown_or_fails hd encoding with ⟨e, hk⟩ | ⟨f, hf⟩
      · obtain ⟨r, u, hu⟩ := exists_steps_writing hroom [] e (.opened true) c.texts
        exact ⟨r, u, (hdraft.tail (.opening hk (ends_open hd hk))).trans hu⟩
      · obtain ⟨r, u, hu⟩ := exists_steps_broken hroom [] f
        exact ⟨r, u, (hdraft.tail (.notOpened (hf _))).trans hu⟩

/-- The steps come to what the replacing of the file comes to. -/
theorem steps_ended_iff {r : Except Fault Unit} :
    Steps w p encoding c (.preparing, w.files) (.ended r, u) ↔
      (replace p encoding c).Ends w r u := by
  refine ⟨fun h => ?_, fun h => ?_⟩
  · cases holds_of_steps h with
    | ended hr => exact hr
  · obtain ⟨r', u', hs⟩ := exists_steps w p encoding c
    cases holds_of_steps hs with
    | ended hr =>
      obtain ⟨rfl, rfl⟩ := h.unique hr
      exact hs

/-! ## The trees between the steps -/

/-- The tree before the end: directories above the file may be new, and there may be a draft. -/
inductive Between (w : Workspace) (p : Path) : Tree → Prop where
  | grown {t : Tree} : Tree.Grows (fun q e => e = .directory ∧ q ∈ w.trail p.parent) w.files t →
      Between w p t
  | drafted {t : Tree} {bytes : List UInt8} : HasRoom w p t →
      Between w p (t.put (Draft.path (w.on t) p).names (.file bytes))

theorem between_of_steps {s : Stage} (hs : Steps w p encoding c (.preparing, w.files) (s, u))
    (hn : ∀ r, s ≠ .ended r) : Between w p u := by
  cases holds_of_steps hs with
  | preparing hg => exact .grown hg
  | drafted hroom => exact .drafted hroom
  | writing hroom => exact .drafted hroom
  | broken hroom => exact .drafted hroom
  | ended => exact absurd rfl (hn _)

/-- Whatever was there before is there still. -/
theorem Between.kept (h : Between w p u) {q : Place} {e : Entry} (he : w.files.find? q = some e) :
    u.find? q = some e := by
  cases h with
  | grown hg => exact hg.kept q e he
  | @drafted t bytes hroom =>
    have hq := (grows_of_haveDirectories hroom.ready).kept q e he
    have hnone := hroom.isPossible.spot.find?_eq_none
    rw [Workspace.files_on] at hnone
    rw [Tree.find?_put_of_none hnone, if_neg, hq]
    rintro rfl
    rw [hnone] at hq
    cases hq

/-- Where no file was there is none, but there may be a directory that was made on the way. -/
theorem Between.absent (hup : Path.up ∉ w.home) (h : Between w p u)
    (hn : w.files.find? (w.goal p) = none) :
    u.find? (w.goal p) = none ∨
      u.find? (w.goal p) = some .directory ∧ w.goal p ∈ w.trail p.parent := by
  have hgrown {t : Tree}
      (hg : Tree.Grows (fun q e => e = .directory ∧ q ∈ w.trail p.parent) w.files t) :
      t.find? (w.goal p) = none ∨
        t.find? (w.goal p) = some .directory ∧ w.goal p ∈ w.trail p.parent := by
    cases he : t.find? (w.goal p) with
    | none => exact .inl rfl
    | some e =>
      obtain ⟨rfl, hq⟩ := hg.added _ e hn he
      exact .inr ⟨rfl, hq⟩
  cases h with
  | grown hg => exact hgrown hg
  | @drafted t bytes hroom =>
    have hnone := hroom.isPossible.spot.find?_eq_none
    rw [Workspace.files_on] at hnone
    have hne : w.goal p ≠ (Draft.path (w.on t) p).names := Draft.goal_ne_path (w := w.on t) hup
    rw [Tree.find?_put_of_none hnone, if_neg hne]
    exact hgrown (grows_of_haveDirectories hroom.ready)

end Stage

/-! ## All or nothing -/

/-- A file for which there is room is replaced, or nothing is but for directories above it. -/
structure AllOrNothing (w : Workspace) (p : Path) (encoding : Text) (c : Content) (t : Tree) :
    Prop where
  /-- Before the draft is made, directories above the file are, and nothing else happens. -/
  grows : Tree.Grows (fun q e => e = .directory ∧ q ∈ w.trail p.parent) w.files t
  /-- Where nothing speaks against it, the file gets the bytes of the texts, and nothing else
  changes. They are those of the whole text but for its end, unless every text is encoded on its own
  or there is none. -/
  replaced {e : Encoding} {bytes : List UInt8} {f : Encoding.Stream} :
    Succeeds (w.on t) p encoding c e bytes f →
    e.MakesUp c.texts bytes f ∧
    ∃ u, (replace p encoding c).Ends w (.ok ()) u ∧
      u.find? (w.goal p) = some (.file bytes) ∧ ∀ q, q ≠ w.goal p → u.find? q = t.find? q
  /-- Whatever keeps the file from being replaced is told with the path of the file, and leaves
  nothing but the directories. -/
  spoiled {f : Fault} : Spoils (w.on t) p encoding c f →
    (replace p encoding c).Ends w (.error (.replacement p.write f.message)) t
  /-- There is no third way. -/
  decided : (∃ e bytes f, Succeeds (w.on t) p encoding c e bytes f) ∨
    ∃ f, Spoils (w.on t) p encoding c f
  /-- The steps are those of the replacing. -/
  ended_iff {r : Except Fault Unit} {u : Tree} :
    Stage.Steps w p encoding c (.preparing, w.files) (.ended r, u) ↔
      (replace p encoding c).Ends w r u
  /-- Before the last step, all is there that was there, the file with its old bytes. -/
  kept {s : Stage} {u : Tree} {q : Place} {e : Entry} :
    Stage.Steps w p encoding c (.preparing, w.files) (s, u) → (∀ r, s ≠ .ended r) →
    w.files.find? q = some e → u.find? q = some e
  /-- Before the last step there is no file where none was, but there may be a directory, if it was
  made as one above the file. -/
  absent {s : Stage} {u : Tree} :
    Stage.Steps w p encoding c (.preparing, w.files) (s, u) → (∀ r, s ≠ .ended r) →
    w.files.find? (w.goal p) = none →
    u.find? (w.goal p) = none ∨
      u.find? (w.goal p) = some .directory ∧ w.goal p ∈ w.trail p.parent

theorem allOrNothing_replace {w : Workspace} {p : Path} {t : Tree} (hup : Path.up ∉ w.home)
    (h : HasRoom w p t) (encoding : Text) (c : Content) : AllOrNothing w p encoding c t where
  grows := grows_of_haveDirectories h.ready
  replaced hs := by
    obtain ⟨-, -, hd⟩ := moveRefusal?_eq_none_iff.1 hs.moves
    have hne : w.goal p ≠ [] := Tree.ne_nil_of_find? hd
    refine ⟨hs.writes.makesUp, _, ends_replace_of_succeeds h hs, Tree.find?_put_self t hne _,
      fun q hq => ?_⟩
    rw [Tree.find?_put t hne, if_neg hq]
  spoiled := ends_replace_of_spoils h
  decided := succeeds_or_spoils (w.on t) p encoding c
  ended_iff := Stage.steps_ended_iff
  kept hs hn he := (Stage.between_of_steps hs hn).kept he
  absent hs hn he := (Stage.between_of_steps hs hn).absent hup he

/-- A new file with two texts in UTF-16. -/
theorem allOrNothing_replace_newFile :
    AllOrNothing {} ⟨[], [['o']]⟩ "utf-16".toList { texts := [['a'], ['b']] } {} ∧
    Succeeds {} ⟨[], [['o']]⟩ "utf-16".toList { texts := [['a'], ['b']] } (.utf16 .little true)
      [0xFF, 0xFE, 97, 0, 98, 0] ⟨false, {}⟩ :=
  ⟨allOrNothing_replace (by simp) (.of_seek (fun _ => ⟨_, rfl⟩) rfl) _ _,
    ⟨by decide, rfl⟩, .cons (a := [0xFF, 0xFE, 97, 0]) (b := [98, 0]) rfl
      (.cons (a := [98, 0]) (b := []) rfl .nil), rfl, by decide⟩

/-- To make `x/..` where there is no `x`, the directory `x` is made. -/
theorem ends_haveDirectories_up :
    (haveDirectories ⟨[], [['x'], Path.up]⟩).Ends {} (.ok ()) ⟨[([['x']], .directory)]⟩ := by
  have hmissing : (haveDirectory ⟨[], [['x'], Path.up]⟩).Ends {}
      (.error (.file { refusal := .missing, path := "x/..".toList })) {} :=
    Work.Ends.tryCatch_error (ends_makeDirectory_error rfl) (.throw _)
  have habove : (haveDirectoriesFrom [] [['x']]).Ends {} (.ok ()) ⟨[([['x']], .directory)]⟩ :=
    Work.Ends.tryCatch (Work.Ends.tryCatch (ends_makeDirectory_none rfl rfl))
  have hthere : (haveDirectory ⟨[], [['x'], Path.up]⟩).Ends
      (({} : Workspace).on ⟨[([['x']], .directory)]⟩) (.ok ()) ⟨[([['x']], .directory)]⟩ :=
    Work.Ends.tryCatch_error (ends_makeDirectory_some (e := .directory) rfl rfl)
      (Work.Ends.bind (ends_isDirectory _ _) (.pure ()))
  exact ends_haveDirectoriesFrom_cons rfl hmissing (habove.bind hthere)

/-- Two texts in UTF-7 are not encoded as one; a text in an encoding with escape sequences lacks the
last one of them; no text has no mark in UTF-16 either; and the directories that are made above a
file may stand where the file is to be. -/
theorem exists_replace_ne_whole :
    (∃ u bytes, (replace ⟨[], [['o']]⟩ "utf-7".toList { texts := [['é'], ['è']] }).Ends {}
        (.ok ()) u ∧ u.find? [['o']] = some (.file bytes) ∧
      Encoding.utf7.whole? ['é', 'è'] ≠ some bytes) ∧
    (∃ u bytes, (replace ⟨[], [['o']]⟩ "iso2022_jp".toList { texts := [['、']] }).Ends {}
        (.ok ()) u ∧ u.find? [['o']] = some (.file bytes) ∧
      (Encoding.escaping .jp).whole? ['、'] = some (bytes ++ [0x1B, 0x28, 0x42])) ∧
    (∃ u, (replace ⟨[], [['o']]⟩ "utf-16".toList { texts := [] }).Ends {} (.ok ()) u ∧
      u.find? [['o']] = some (.file []) ∧ (Encoding.utf16 .little true).whole? [] ≠ some []) ∧
    ∃ t draft u, HasRoom {} ⟨[], [['x'], Path.up, ['x']]⟩ t ∧
      Stage.Steps {} ⟨[], [['x'], Path.up, ['x']]⟩ "utf-8".toList { texts := [] } (.preparing, {})
        (.drafted draft, u) ∧
      ({} : Tree).find? [['x']] = none ∧ u.find? [['x']] = some .directory := by
  have hroom : HasRoom {} ⟨[], [['o']]⟩ {} := .of_seek (fun _ => ⟨_, rfl⟩) rfl
  have hmoves : moveRefusal? {} ⟨[], [['o']]⟩ = none := by decide
  refine ⟨?_, ?_, ?_, ?_⟩
  · have hs : Succeeds {} ⟨[], [['o']]⟩ "utf-7".toList { texts := [['é'], ['è']] } .utf7 _ _ :=
      ⟨⟨by decide, rfl⟩, .cons rfl (.cons rfl .nil), rfl, hmoves⟩
    refine ⟨_, _, ends_replace_of_succeeds hroom hs, Tree.find?_put_self _ (by decide) _, ?_⟩
    simp [Encoding.whole?, Encoding.write, Encoding.encode, Encoding.utf7Text, Encoding.isDirect,
      Encoding.shifted]
    decide
  · have hs : Succeeds {} ⟨[], [['o']]⟩ "iso2022_jp".toList { texts := [['、']] } (.escaping .jp)
        [0x1B, 0x24, 0x42, 0x21, 0x22] ⟨false, { called := some .basic }⟩ :=
      ⟨⟨by decide, rfl⟩, .cons (a := [0x1B, 0x24, 0x42, 0x21, 0x22]) (b := [])
        (g := ⟨false, { called := some .basic }⟩) (by decide +kernel) .nil, rfl, hmoves⟩
    exact ⟨_, _, ends_replace_of_succeeds hroom hs, Tree.find?_put_self _ (by decide) _,
      by decide +kernel⟩
  · have hs : Succeeds {} ⟨[], [['o']]⟩ "utf-16".toList { texts := [] } (.utf16 .little true) []
        (.opened true) := ⟨⟨by decide, rfl⟩, .nil, rfl, hmoves⟩
    exact ⟨_, ends_replace_of_succeeds hroom hs, Tree.find?_put_self _ (by decide) _, by decide⟩
  · have hx : HasRoom {} ⟨[], [['x'], Path.up, ['x']]⟩ ⟨[([['x']], .directory)]⟩ :=
      .of_seek ends_haveDirectories_up rfl
    have hfirst : Stage.Steps {} ⟨[], [['x'], Path.up, ['x']]⟩ "utf-8".toList { texts := [] }
        (.preparing, {}) (.preparing, ⟨[([['x']], .directory)]⟩) :=
      .single (.directory (by decide) rfl)
    exact ⟨_, _, _, hx, hfirst.tail (.draft hx.ready hx.isPossible.ends_make), rfl, by decide⟩

end DfaTable.Files
