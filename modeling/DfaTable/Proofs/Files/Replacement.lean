import DfaTable.Files.Replacement
import DfaTable.Proofs.Encoding.Concatenation
import DfaTable.Proofs.Files.Growth
import DfaTable.Proofs.Files.Writing
import Mathlib.Data.List.Nodup
import Mathlib.Data.List.Perm.Subperm

/-!
# DfaTable.Proofs.Files.Replacement

What replacing a file as a whole comes to. The draft always has a place of its own, so taking it
away or moving it leaves the tree that was there before it.

* `number_isFree`: no draft is made where something is.
* `ends_make`: a draft is made in such a place, or nothing is changed.
* `Succeeds`, `Spoils`: what has to be for the file to be replaced, and what may keep it from that.
* `ends_replace`: the file has all of its new bytes, or the tree is the one before the draft.
-/

namespace DfaTable.Files

namespace Draft

/-! ## The name of a draft -/

theorem ofDigitChars_padded (n k : Nat) :
    Nat.ofDigitChars 10 (List.replicate k '0' ++ Numeral.ofNat n) 0 = n := by
  rw [Nat.ofDigitChars_append, Nat.ofDigitChars_replicate_zero, Nat.mul_zero,
    Numeral.ofDigitChars_ofNat]

theorem name_injective (file : Text) : Function.Injective (name file) := by
  intro m n h
  simp only [name, List.cons.injEq, true_and, List.append_cancel_left_eq, List.cons_append,
    List.append_assoc] at h
  rw [← List.append_assoc, ← List.append_assoc] at h
  have hd := List.append_cancel_right h
  rw [← ofDigitChars_padded m (width - (Numeral.ofNat m).length), hd, ofDigitChars_padded]

theorem name_ne_up (file : Text) (n : Nat) : name file n ≠ Path.up := by
  intro h
  have hl := congrArg List.length h
  simp [name, Path.up] at hl
  omega

/-- The numbers that are looked at are more than the entries, so not all of them are taken. -/
theorem exists_free (t : Tree) (directory : Place) (file : Text) :
    ∃ n ≤ t.entries.length, directory ++ [name file n] ∉ t.entries.map Prod.fst := by
  by_contra h
  push Not at h
  -- Then one place too many, and all different, are places of entries.
  have hsub : (List.range (t.entries.length + 1)).map (fun n => directory ++ [name file n]) ⊆
      t.entries.map Prod.fst := by
    intro q hq
    obtain ⟨n, hn, rfl⟩ := List.mem_map.1 hq
    exact h n (Nat.lt_succ_iff.1 (List.mem_range.1 hn))
  have hinj : Function.Injective fun n => directory ++ [name file n] := by
    intro m n h
    exact name_injective file (List.cons.inj (List.append_cancel_left h)).1
  have hnodup := (List.nodup_range (n := t.entries.length + 1)).map hinj
  have hlen := (List.subperm_of_subset hnodup hsub).length_le
  rw [List.length_map, List.length_map, List.length_range] at hlen
  omega

/-- No draft is made where something is. -/
theorem number_isFree (t : Tree) (directory : Place) (file : Text) :
    directory ++ [name file (number t directory file)] ∉ t.entries.map Prod.fst := by
  have hfree : ∀ n, (!t.entries.any fun e => e.1 == directory ++ [name file n]) = true ↔
      directory ++ [name file n] ∉ t.entries.map Prod.fst := by
    intro n
    rw [Bool.not_eq_true', ← Bool.not_eq_true, List.any_eq_true, List.mem_map]
    simp only [beq_iff_eq]
  rw [number]
  cases hf : (List.range t.entries.length).find?
      fun n => !t.entries.any fun e => e.1 == directory ++ [name file n] with
  | some n =>
    have hn := List.find?_some hf
    exact (hfree n).1 hn
  | none =>
    rw [List.find?_eq_none] at hf
    obtain ⟨n, hle, hn⟩ := exists_free t directory file
    have hcount : n = t.entries.length := by
      by_contra hne
      exact hf n (List.mem_range.2 (by omega)) ((hfree n).2 hn)
    rwa [hcount] at hn

/-- The number of a draft is the first one whose place is free. -/
theorem mem_of_lt_number {t : Tree} {directory : Place} {file : Text} {n : Nat}
    (h : n < number t directory file) :
    directory ++ [name file n] ∈ t.entries.map Prod.fst := by
  have hfree : (!t.entries.any fun e => e.1 == directory ++ [name file n]) = false := by
    rw [number] at h
    cases hf : (List.range t.entries.length).find?
        fun n => !t.entries.any fun e => e.1 == directory ++ [name file n] with
    | some m =>
      rw [hf] at h
      obtain ⟨-, -, hmin⟩ := List.find?_range_eq_some.1 hf
      simpa using hmin n h
    | none =>
      rw [hf] at h
      rw [List.find?_eq_none] at hf
      exact Bool.eq_false_iff.2 (hf n (List.mem_range.2 h))
  rw [Bool.not_eq_false', List.any_eq_true] at hfree
  obtain ⟨e, he, hd⟩ := hfree
  exact List.mem_map.2 ⟨e, he, beq_iff_eq.1 hd⟩

/-- The number of a draft depends on nothing but the places of drafts. -/
theorem number_congr {t u : Tree} {directory : Place} {file : Text}
    (h : ∀ n, directory ++ [name file n] ∈ t.entries.map Prod.fst ↔
      directory ++ [name file n] ∈ u.entries.map Prod.fst) :
    number t directory file = number u directory file := by
  rcases Nat.lt_trichotomy (number t directory file) (number u directory file) with hlt | he | hlt
  · exact absurd ((h _).2 (mem_of_lt_number hlt)) (number_isFree t directory file)
  · exact he
  · exact absurd ((h _).1 (mem_of_lt_number hlt)) (number_isFree u directory file)

/-! ## Making a draft -/

/-- A place for a draft: nothing is there, and its path leads there. -/
structure Spot (w : Workspace) (draft : Path) (q : Place) : Prop where
  seek : w.seek draft = .ok q
  free : ∀ e ∈ w.files.entries, e.1 ≠ q
  ne_nil : q ≠ []

variable {w : Workspace} {p draft : Path} {q : Place}

theorem Spot.find?_eq_none (h : Spot w draft q) : w.files.find? q = none := by
  rw [Tree.find?, if_neg h.ne_nil, List.lookup_eq_none_iff]
  intro e he
  simpa using Ne.symm (h.free e he)

theorem Spot.erase_put (h : Spot w draft q) (e : Entry) :
    (w.files.put q e).erase q = w.files :=
  Tree.erase_put h.free e

theorem Spot.find?_put (h : Spot w draft q) (e : Entry) :
    (w.files.put q e).find? q = some e := by
  rw [Tree.find?_put_of_none h.find?_eq_none, if_pos rfl]

theorem Spot.ne_directory (h : Spot w draft q) : w.files.find? q ≠ some .directory := by
  rw [h.find?_eq_none]
  simp

/-- The path of the draft that is made for a file. -/
def path (w : Workspace) (p : Path) : Path :=
  let directory := Place.goal [] (w.start p ++ p.names.dropLast)
  { root := ['/'], names := directory ++ [name p.name (number w.files directory p.name)] }

theorem goal_path (w : Workspace) (p : Path) : w.goal (path w p) = (path w p).names := by
  have hup : Path.up ∉ (path w p).names := by
    intro h
    rcases List.mem_append.1 h with h | h
    · rcases Place.mem_goal h with h | ⟨-, h⟩
      · cases h
      · exact h rfl
    · exact name_ne_up _ _ (List.mem_singleton.1 h).symm
  show Place.goal [] (path w p).names = _
  rw [Place.goal_of_notMem _ hup, List.nil_append]

/-- No draft of a file is at the place of the file. -/
theorem goal_ne (hup : Path.up ∉ w.home) (n : Nat) :
    w.goal p ≠ Place.goal [] (w.start p ++ p.names.dropLast) ++ [name p.name n] := by
  have hstart : Path.up ∉ w.start p := by
    rw [Workspace.start]
    split
    · exact hup
    · simp
  rw [Place.goal_append, Place.goal_of_notMem _ hstart, List.nil_append]
  intro h
  -- The place of the file is in the directory of the drafts, or no deeper than this.
  rcases List.eq_nil_or_concat p.names with hp | ⟨above, last, hp⟩
  · rw [Workspace.goal, hp] at h
    simpa using congrArg List.length h
  · rw [List.concat_eq_append] at hp
    have hdrop : p.names.dropLast = above := by simp [hp]
    have hlast : p.name = last := by simp [Path.name, hp]
    rw [hdrop, hlast, Workspace.goal, hp, Place.goal_append, Place.goal_cons, Place.goal_nil,
      Place.step] at h
    split at h
    · have hl := congrArg List.length h
      rw [List.length_dropLast, List.length_append, List.length_singleton] at hl
      omega
    · have hl := congrArg List.length (List.cons.inj (List.append_cancel_left h)).1
      simp only [name, List.length_append, List.length_cons] at hl
      omega

theorem goal_ne_path (hup : Path.up ∉ w.home) : w.goal p ≠ (path w p).names := goal_ne hup _

/-- The file itself has no part in which draft is made for it. -/
theorem path_put (hup : Path.up ∉ w.home) (e : Entry) :
    path (w.on (w.files.put (w.goal p) e)) p = path w p := by
  have hnumber : number (w.files.put (w.goal p) e)
      (Place.goal [] (w.start p ++ p.names.dropLast)) p.name =
      number w.files (Place.goal [] (w.start p ++ p.names.dropLast)) p.name := by
    refine number_congr fun n => ?_
    rw [Tree.mem_places_put, or_iff_right (goal_ne hup n).symm]
  show Path.mk _ (_ ++ [name p.name (number _ _ _)]) = Path.mk _ (_ ++ [name p.name (number _ _ _)])
  rw [← hnumber]
  rfl

theorem spot_path (h : w.seek (path w p) = .ok q) : Spot w (path w p) q := by
  have hq : q = (path w p).names := by
    rw [← goal_path]
    exact (Workspace.goal_of_locate (Workspace.seek_eq_ok_iff.1 h).2).1
  have hfree := number_isFree w.files (Place.goal [] (w.start p ++ p.names.dropLast)) p.name
  subst hq
  refine ⟨h, fun e he hp => hfree (List.mem_map.2 ⟨e, he, hp⟩), ?_⟩
  simp [path]

theorem hasNull_path (h : w.Fits p) : (path w p).hasNull = false := by
  have hname : '\x00' ∉ p.name := by
    rw [Path.name, List.getLastD_eq_getLast?]
    cases hl : p.names.getLast? with
    | none => simp
    | some n => exact (h.names n (List.mem_append_right _ (List.mem_of_getLast? hl))).2
  have hdigits : ∀ n, '\x00' ∉ Numeral.ofNat n := by
    intro n hn
    cases Numeral.isDigit_of_mem_ofNat hn
  rw [Path.hasNull, List.any_eq_false]
  intro n hn
  rw [List.contains_iff_mem]
  rcases List.mem_append.1 hn with hn | hn
  · rcases Place.mem_goal hn with hn | ⟨hn, -⟩
    · cases hn
    · refine (h.names n ?_).2
      rcases List.mem_append.1 hn with hn | hn
      · exact List.mem_append_left _ hn
      · exact List.mem_append_right _ (List.dropLast_subset _ hn)
  · rw [List.mem_singleton.1 hn]
    simp [name, hname, hdigits, List.mem_replicate]

/-- The last name of a path is part of that of its draft; those before it are in its parent. -/
theorem hasNull_of_path (hparent : p.parent.hasNull = false) (h : (path w p).hasNull = false) :
    p.hasNull = false := by
  simp only [Path.hasNull, List.any_eq_false, List.contains_iff_mem] at hparent h ⊢
  intro n hn
  rcases List.eq_nil_or_concat p.names with hp | ⟨names, last, hp⟩
  · rw [hp] at hn
    cases hn
  · rw [List.concat_eq_append] at hp
    rw [hp] at hn
    rcases List.mem_append.1 hn with hn | hn
    · exact hparent n (by simpa [Path.parent, hp] using hn)
    · rw [List.mem_singleton.1 hn]
      have hlast : p.name = last := by simp [Path.name, hp]
      have hname := h _ (List.mem_append_right _ (List.mem_singleton_self _))
      simp only [name, hlast, List.mem_append, List.mem_cons] at hname
      tauto

theorem ends_make (h : w.seek (path w p) = .ok q) :
    (make p).Ends w (.ok (path w p)) (w.files.put q (.file [])) := by
  refine .get_bind fun j => ?_
  have ht := ends_touch_none h (spot_path h).find?_eq_none
  exact ht.bind (.pure _)

theorem ends_make_error {f : Fault} (h : w.seek (path w p) = .error f) :
    (make p).Ends w (.error f) w.files := by
  refine .get_bind fun j => ?_
  exact (ends_touch_error h).bind_error

end Draft

/-! ## Replacing a file -/

section
variable {w : Workspace} {p : Path} {encoding : Text} {c : Content} {t : Tree}

/-- Fills a draft and moves it over a file. -/
def fill (draft p : Path) (encoding : Text) (c : Content) : Work Unit := do
  write draft false encoding c
  move draft p
  Work.report .debug "utils.atomic" "atomic_write_success" [Journal.textField "path" p.write]

/-- Takes a draft away after a fault, and names the file in a new one. -/
def discard (draft p : Path) (f : Fault) : Work Unit := do
  Work.report .error "utils.atomic" "atomic_write_failed"
    [Journal.textField "path" p.write, Journal.textField "error" f.message]
  if ← isThere draft then remove draft
  throw (.replacement p.write f.message)

theorem replace_eq (p : Path) (encoding : Text) (c : Content) :
    replace p encoding c = (do
      haveDirectories p.parent
      let draft ← Draft.make p
      tryCatch (fill draft p encoding c) (discard draft p)) :=
  rfl

/-- A draft of a file can be made, in a directory that is there. -/
structure Draft.IsPossible (w : Workspace) (p : Path) : Prop where
  spot : Spot w (path w p) (path w p).names
  way : ∀ d ∈ (w.start p).way p.names, w.files.find? d = some .directory
  hasNull : p.hasNull = false

/-- Nothing speaks against replacing a file, which has these bytes then; the encoder stands behind
them. -/
structure Succeeds (w : Workspace) (p : Path) (encoding : Text) (c : Content) (e : Encoding)
    (bytes : List UInt8) (f : Encoding.Stream) : Prop where
  known : IsKnown encoding e
  writes : e.Writes (.opened true) c.texts bytes f
  notGivenUp : c.givenUp = none
  moves : moveRefusal? w p = none

/-- What keeps a file from being replaced although there is room for a draft. -/
inductive Spoils (w : Workspace) (p : Path) (encoding : Text) (c : Content) : Fault → Prop where
  | nullCharacter : '\x00' ∈ encoding → Spoils w p encoding c .nullCharacter
  | unknown {f : Fault} : '\x00' ∉ encoding → encodingOf encoding = .error f →
      Spoils w p encoding c f
  /-- A text cannot be written, after those before it were. -/
  | unwritable {e : Encoding} {before after : List Text} {x : Text} {bytes : List UInt8}
      {f : Encoding.Stream} {u : Encoding.Unwritable} : IsKnown encoding e →
      c.texts = before ++ x :: after → e.Writes (.opened true) before bytes f →
      e.write f x = .error u → Spoils w p encoding c (.unwritable u)
  /-- The writer gives up after all of the texts. -/
  | givenUp {e : Encoding} {bytes : List UInt8} {f : Encoding.Stream} {x : Fault} :
      IsKnown encoding e → e.Writes (.opened true) c.texts bytes f → c.givenUp = some x →
      Spoils w p encoding c x
  /-- The draft has all of the texts, but cannot be moved. -/
  | notMoved {e : Encoding} {bytes : List UInt8} {f : Encoding.Stream} {r : Refusal} :
      IsKnown encoding e → e.Writes (.opened true) c.texts bytes f → c.givenUp = none →
      moveRefusal? w p = some r → Spoils w p encoding c (.file
        { refusal := r, path := (Draft.path w p).write, target := some p.write })

theorem succeeds_or_spoils (w : Workspace) (p : Path) (encoding : Text) (c : Content) :
    (∃ e bytes f, Succeeds w p encoding c e bytes f) ∨ ∃ f, Spoils w p encoding c f := by
  by_cases hn : '\x00' ∈ encoding
  · exact .inr ⟨_, .nullCharacter hn⟩
  cases he : encodingOf encoding with
  | error f => exact .inr ⟨f, .unknown hn he⟩
  | ok e =>
    have hk : IsKnown encoding e := ⟨hn, he⟩
    rcases e.exists_writes (.opened true) c.texts with
      ⟨bytes, f, hw⟩ | ⟨before, x, after, bytes, f, u, hc, hw, hx⟩
    · cases hg : c.givenUp with
      | some x => exact .inr ⟨_, .givenUp hk hw hg⟩
      | none =>
        cases hr : moveRefusal? w p with
        | some r => exact .inr ⟨_, .notMoved hk hw hg hr⟩
        | none => exact .inl ⟨e, bytes, f, hk, hw, hg, hr⟩
    · exact .inr ⟨_, .unwritable hk hc hw hx⟩

/-- After a fault the draft is taken away, whatever is in it. -/
theorem ends_discard {draft : Path} {q : Place} (h : Draft.Spot w draft q) (bytes : List UInt8)
    (p : Path) (f : Fault) :
    (discard draft p f).Ends (w.on (w.files.put q (.file bytes)))
      (.error (.replacement p.write f.message)) w.files := by
  have hs := (seek_put_file_iff h.ne_directory bytes).2 h.seek
  have hf := h.find?_put (.file bytes)
  have hthere := ends_isThere (w.on (w.files.put q (.file bytes))) draft
  rw [Workspace.look_of_found? (Workspace.found?_eq_some_iff.2 ⟨q, hs, hf⟩)] at hthere
  have hremove := ends_remove_file hs hf
  rw [Workspace.files_on, h.erase_put] at hremove
  exact .bind (.onJournal _) (hthere.bind (hremove.bind (.throw _)))

namespace Draft.IsPossible

variable (h : IsPossible w p) (bytes : List UInt8)
include h

theorem ends_make :
    (make p).Ends w (.ok (path w p)) (w.files.put (path w p).names (.file [])) :=
  Draft.ends_make h.spot.seek

theorem seek_put : (w.on (w.files.put (path w p).names (.file bytes))).seek (path w p) =
    .ok (path w p).names :=
  (seek_put_file_iff h.spot.ne_directory bytes).2 h.spot.seek

theorem ne_directory_put :
    (w.files.put (path w p).names (.file bytes)).find? (path w p).names ≠ some .directory := by
  rw [h.spot.find?_put]
  simp

/-- What is written to the draft. -/
theorem ends_write (hn : '\x00' ∉ encoding) (c : Content) :
    (write (path w p) false encoding c).Ends (w.on (w.files.put (path w p).names (.file [])))
      (endOf (c.encoded encoding true).2)
      (w.files.put (path w p).names (.file (c.encoded encoding true).1)) := by
  have hwrite := ends_write_anew hn (h.seek_put []) (h.ne_directory_put []) c
  rwa [Workspace.files_on, Tree.put_put] at hwrite

theorem ends_write_of_writes {e : Encoding} {bytes : List UInt8} {f : Encoding.Stream}
    (hk : IsKnown encoding e) (hw : e.Writes (.opened true) c.texts bytes f) :
    (write (path w p) false encoding c).Ends (w.on (w.files.put (path w p).names (.file [])))
      (endOf c.givenUp) (w.files.put (path w p).names (.file bytes)) := by
  have hwrite := h.ends_write hk.notNull c
  rwa [hk.encoded, Encoding.encodeAll_of_writes hw] at hwrite

/-- What is written before a text that cannot be stays in the draft. -/
theorem ends_write_of_error {e : Encoding} {before after : List Text} {x : Text}
    {bytes : List UInt8} {f : Encoding.Stream} {u : Encoding.Unwritable} (hk : IsKnown encoding e)
    (hc : c.texts = before ++ x :: after) (hw : e.Writes (.opened true) before bytes f)
    (hx : e.write f x = .error u) :
    (write (path w p) false encoding c).Ends (w.on (w.files.put (path w p).names (.file [])))
      (.error (.unwritable u)) (w.files.put (path w p).names (.file bytes)) := by
  have hwrite := h.ends_write hk.notNull c
  rwa [hk.encoded, hc, Encoding.encodeAll_of_error hw hx] at hwrite

/-- A draft beside the file has no part in whether it can be moved. -/
theorem moveRefusal?_put :
    moveRefusal? (w.on (w.files.put (path w p).names (.file bytes))) p = moveRefusal? w p := by
  have hnone := h.spot.find?_eq_none
  have hl : (w.on (w.files.put (path w p).names (.file bytes))).locate p = w.locate p := by
    refine Workspace.locate_congr fun d hd => ?_
    rw [Tree.find?_put_of_none hnone, if_neg]
    rintro rfl
    rw [h.way _ hd] at hnone
    cases hnone
  rw [moveRefusal?, moveRefusal?, hl]
  cases w.locate p with
  | error r => rfl
  | ok goal =>
    have hdir := Tree.find?_put_file_iff h.spot.ne_directory bytes goal
    simp only [Workspace.files_on, beq_iff_eq, hdir]

end Draft.IsPossible

theorem ends_fill_of_spoils {f : Fault} (h : Draft.IsPossible w p)
    (hs : Spoils w p encoding c f) :
    ∃ bytes, (fill (Draft.path w p) p encoding c).Ends
      (w.on (w.files.put (Draft.path w p).names (.file []))) (.error f)
      (w.files.put (Draft.path w p).names (.file bytes)) := by
  cases hs with
  | nullCharacter hn => exact ⟨[], (ends_write_null hn false c).bind_error⟩
  | unknown hn he =>
    have hw := h.ends_write hn c
    rw [Content.encoded, he] at hw
    exact ⟨[], hw.bind_error⟩
  | unwritable hk hc hw hx => exact ⟨_, (h.ends_write_of_error hk hc hw hx).bind_error⟩
  | givenUp hk hw hg =>
    have hwrite := h.ends_write_of_writes hk hw
    rw [hg] at hwrite
    exact ⟨_, hwrite.bind_error⟩
  | @notMoved e bytes f r hk hw hg hr =>
    have hwrite := h.ends_write_of_writes hk hw
    rw [hg] at hwrite
    rw [← h.moveRefusal?_put bytes] at hr
    have hmove := ends_move_refused (h.seek_put _) (h.spot.find?_put _) h.hasNull hr
    exact ⟨_, hwrite.bind hmove.bind_error⟩

variable {e : Encoding} {bytes : List UInt8} {f : Encoding.Stream}

theorem ends_fill_of_succeeds (h : Draft.IsPossible w p) (hs : Succeeds w p encoding c e bytes f) :
    (fill (Draft.path w p) p encoding c).Ends
      (w.on (w.files.put (Draft.path w p).names (.file []))) (.ok ())
      (w.files.put (w.goal p) (.file bytes)) := by
  have hw := h.ends_write_of_writes hs.known hs.writes
  rw [hs.notGivenUp] at hw
  have hr := (h.moveRefusal?_put bytes).trans hs.moves
  obtain ⟨-, -, hmove⟩ := ends_move (h.seek_put _) (h.spot.find?_put _) h.hasNull hr
  rw [Workspace.files_on, h.spot.erase_put] at hmove
  exact hw.bind (hmove.bind (.onJournal _))

/-- There is room for a draft beside a file: the directories above the file can be made, which
leaves the files `t`, and then the draft. -/
structure HasRoom (w : Workspace) (p : Path) (t : Tree) : Prop where
  ready : (haveDirectories p.parent).Ends w (.ok ()) t
  drafts : ∃ draft u, (Draft.make p).Ends (w.on t) (.ok draft) u

theorem HasRoom.of_seek {q : Place} (hd : (haveDirectories p.parent).Ends w (.ok ()) t)
    (hq : (w.on t).seek (Draft.path (w.on t) p) = .ok q) : HasRoom w p t :=
  ⟨hd, _, _, Draft.ends_make hq⟩

theorem HasRoom.isPossible (h : HasRoom w p t) : Draft.IsPossible (w.on t) p := by
  obtain ⟨draft, u, hu⟩ := h.drafts
  have hfound := found?_of_haveDirectories h.ready
  obtain ⟨d, hd, -⟩ := Workspace.found?_eq_some_iff.1 hfound
  have hspot : Draft.Spot (w.on t) (Draft.path (w.on t) p) (Draft.path (w.on t) p).names := by
    cases hs : (w.on t).seek (Draft.path (w.on t) p) with
    | error f => cases (hu.unique (Draft.ends_make_error hs)).1
    | ok q =>
      have hq := (Workspace.goal_of_locate (Workspace.seek_eq_ok_iff.1 hs).2).1
      rw [hq, Draft.goal_path] at hs
      exact Draft.spot_path hs
  refine ⟨hspot, fun d hd => ?_, ?_⟩
  · exact forall_trail_of_found? hfound d (Workspace.mem_trail_parent hd)
  · exact Draft.hasNull_of_path (Workspace.seek_eq_ok_iff.1 hd).1
      (Workspace.seek_eq_ok_iff.1 hspot.seek).1

/-- What keeps a file from being replaced is named, and leaves the tree as it was before the
draft. -/
theorem ends_replace_of_spoils {f : Fault} (h : HasRoom w p t)
    (hs : Spoils (w.on t) p encoding c f) :
    (replace p encoding c).Ends w (.error (.replacement p.write f.message)) t := by
  have hd := h.isPossible
  obtain ⟨bytes, hfill⟩ := ends_fill_of_spoils hd hs
  rw [replace_eq]
  exact h.ready.bind (hd.ends_make.bind (hfill.tryCatch_error (ends_discard hd.spot bytes p f)))

theorem ends_replace_of_succeeds (h : HasRoom w p t)
    (hs : Succeeds (w.on t) p encoding c e bytes f) :
    (replace p encoding c).Ends w (.ok ()) (t.put (w.goal p) (.file bytes)) := by
  have hd := h.isPossible
  rw [replace_eq]
  exact h.ready.bind (hd.ends_make.bind (ends_fill_of_succeeds hd hs).tryCatch)

/-- What replacing a file comes to. After the directories are there, the only change that is left
is the one to the file. -/
inductive Replaces (w : Workspace) (p : Path) (encoding : Text) (c : Content) :
    Except Fault Unit → Tree → Prop where
  | noDirectory {f : Fault} {t : Tree} : (haveDirectories p.parent).Ends w (.error f) t →
      Replaces w p encoding c (.error f) t
  | noDraft {f : Fault} {t : Tree} : (haveDirectories p.parent).Ends w (.ok ()) t →
      (w.on t).seek (Draft.path (w.on t) p) = .error f → Replaces w p encoding c (.error f) t
  | failed {cause : Text} {t : Tree} : (haveDirectories p.parent).Ends w (.ok ()) t →
      Replaces w p encoding c (.error (.replacement p.write cause)) t
  | replaced {bytes : List UInt8} {t : Tree} : (haveDirectories p.parent).Ends w (.ok ()) t →
      c.encoded encoding true = (bytes, none) → (w.on t).seek p = .ok (w.goal p) →
      t.find? (w.goal p) ≠ some .directory →
      Replaces w p encoding c (.ok ()) (t.put (w.goal p) (.file bytes))

/-- The draft takes the place of the file with all of the bytes, or it is gone. -/
theorem ends_replace (w : Workspace) (p : Path) (encoding : Text) (c : Content) :
    ∃ r t, (replace p encoding c).Ends w r t ∧ Replaces w p encoding c r t := by
  have hmoves : Work.Moves w.home (Tree.Grows fun _ e => e = .directory)
      (haveDirectories p.parent) := moves_haveDirectories fun _ _ _ hq => .put hq rfl
  obtain ⟨r, t, ht, -⟩ := hmoves w rfl
  -- From here on the tree is `t`, to which every failure comes back.
  cases r with
  | error f => exact ⟨_, t, ht.bind_error, .noDirectory ht⟩
  | ok u =>
    cases hs : (w.on t).seek (Draft.path (w.on t) p) with
    | error f => exact ⟨_, t, ht.bind (Draft.ends_make_error hs).bind_error, .noDraft ht hs⟩
    | ok q =>
      have hroom := HasRoom.of_seek ht hs
      rcases succeeds_or_spoils (w.on t) p encoding c with ⟨e, bytes, f, hg⟩ | ⟨f, hf⟩
      · obtain ⟨hl, -, hd⟩ := moveRefusal?_eq_none_iff.1 hg.moves
        refine ⟨_, _, ends_replace_of_succeeds hroom hg, .replaced ht ?_
          (Workspace.seek_eq_ok_iff.2 ⟨hroom.isPossible.hasNull, hl⟩) hd⟩
        rw [hg.known.encoded, Encoding.encodeAll_of_writes hg.writes, hg.notGivenUp]
        rfl
      · exact ⟨_, t, ends_replace_of_spoils hroom hf, .failed ht⟩

end

end DfaTable.Files
