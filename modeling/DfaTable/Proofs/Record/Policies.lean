import DfaTable.Proofs.Encoding.Decoding
import DfaTable.Proofs.Record.Writing

/-!
# DfaTable.Proofs.Record.Policies

What becomes of a file that records are written to, under each of the settings. The place for the
file is known, and a draft can be made beside it; then every write comes to its end.

* `ends_truncating`: a file that is written anew has the bytes of the lines and no others, whether
  it is replaced as a whole or not.
* `ends_appending`: a file that is added to keeps its bytes, and has those of the lines behind them.
* `addedTo_append`: what is added in two goes, against what is added at once.
* `policies_writeAll`: all that holds of both.
-/

namespace DfaTable.Record

open Files

variable {w : Workspace} {p : Path} {records more : List Record} {s : OutputSettings} {e : Encoding}

/-- There is a file at a path or a place for one, and a draft can be made beside it. -/
structure IsOpen (w : Workspace) (p : Path) : Prop where
  home : Path.up ∉ w.home
  seek : w.seek p = .ok (w.goal p)
  endsInName : p.endsInName = true
  ne_directory : w.files.find? (w.goal p) ≠ some .directory
  drafts : ∃ draft t, (Draft.make p).Ends w (.ok draft) t

namespace IsOpen

theorem names_ne_nil (h : IsOpen w p) : p.names ≠ [] := by
  intro hp
  have he := h.endsInName
  rw [Path.endsInName, hp] at he
  cases he

/-- The directory is there, so that none has to be made. -/
theorem hasRoom (h : IsOpen w p) : HasRoom w p w.files :=
  ⟨ends_haveDirectories_there (Workspace.found?_parent h.seek h.names_ne_nil), h.drafts⟩

/-- Writing the file keeps it open. -/
theorem put (h : IsOpen w p) (bytes : List UInt8) :
    IsOpen (w.on (w.files.put (w.goal p) (.file bytes))) p where
  home := h.home
  seek := (seek_put_file_iff h.ne_directory bytes).2 h.seek
  endsInName := h.endsInName
  ne_directory := by
    have hfile := Tree.find?_put_self w.files (Tree.ne_nil_of_find? h.ne_directory) (.file bytes)
    exact fun hd => by cases hfile.symm.trans hd
  drafts := by
    have hdraft := (seek_put_file_iff h.ne_directory bytes).2 h.hasRoom.isPossible.spot.seek
    rw [Workspace.on_files, ← Draft.path_put h.home (.file bytes)] at hdraft
    exact ⟨_, _, Draft.ends_make hdraft⟩

end IsOpen

theorem isKnown_of_isFor (h : s.IsFor e) : IsKnown s.encoding e :=
  ⟨h.notNull, encodingOf_of_named h.named⟩

/-! ## The text -/

/-- There is a line feed at the end of each line, and no other. -/
theorem count_lineFeed (records : List Record) :
    (spelledLines records).flatten.count '\n' = records.length := by
  induction records with
  | nil => rfl
  | cons r records ih =>
    have hr : r.spelled.count '\n' = 0 := List.count_eq_zero.2 (lineFeed_notMem_spelled r)
    rw [spelledLines, List.map_cons, List.flatten_cons, List.count_append, List.count_append, hr]
    rw [spelledLines] at ih
    rw [ih, List.length_cons, List.count_singleton_self]
    omega

theorem flatten_spelledLines_eq_nil_iff : (spelledLines records).flatten = [] ↔ records = [] := by
  rw [← List.length_eq_zero_iff (l := records), ← count_lineFeed]
  constructor
  · intro h
    rw [h]
    rfl
  · intro h
    cases records with
    | nil => rfl
    | cons r records =>
      rw [count_lineFeed] at h
      cases h

/-! ## The bytes -/

/-- What is written behind the bytes of a file: there is a mark only if there are none. -/
def addedTo (e : Encoding) (old : List UInt8) (records : List Record) : List UInt8 :=
  e.lead (.opened old.isEmpty) (spelledLines records) ++
    e.plainBytes (spelledLines records).flatten

/-- What is written once more where lines are added to a file in two goes, besides the lines: behind
bytes that are there, ASCII has to be called by escape sequences again. -/
def between (e : Encoding) (records more : List Record) : List UInt8 :=
  if records = [] ∨ more = [] then [] else e.back { called := none }

theorem addedTo_nil (e : Encoding) (old : List UInt8) : addedTo e old [] = [] := by
  simp [addedTo, spelledLines, Encoding.lead, Encoding.calling, Encoding.plainBytes]

theorem addedTo_of_ne_nil (hr : records ≠ []) (old : List UInt8) :
    addedTo e old records =
      (if old.isEmpty then e.mark else e.back { called := none }) ++
        e.plainBytes (spelledLines records).flatten := by
  rw [addedTo, Encoding.lead_opened _ (mt flatten_spelledLines_eq_nil_iff.1 hr)]

theorem plainBytes_ne_nil (hf : e.isFaithful = true) (hr : records ≠ []) :
    e.plainBytes (spelledLines records).flatten ≠ [] := by
  intro h
  have hread := Encoding.readFrom_plainBytes hf (isPlain_flatten_spelledLines records)
  rw [h] at hread
  exact hr (flatten_spelledLines_eq_nil_iff.1 (Option.some.inj hread).symm)

/-- What is added in two goes is what is added at once, and what has to be written once more. -/
theorem addedTo_append (hf : e.isFaithful = true) (old : List UInt8)
    (records more : List Record) :
    ∃ rest, addedTo e old (records ++ more) = addedTo e old records ++ rest ∧
      addedTo e (old ++ addedTo e old records) more = between e records more ++ rest := by
  by_cases hr : records = []
  · subst hr
    exact ⟨addedTo e old more, by simp [addedTo_nil], by simp [addedTo_nil, between]⟩
  have hlines : e.plainBytes (spelledLines (records ++ more)).flatten =
      e.plainBytes (spelledLines records).flatten ++ e.plainBytes (spelledLines more).flatten := by
    simp [spelledLines, Encoding.plainBytes]
  refine ⟨e.plainBytes (spelledLines more).flatten, ?_, ?_⟩
  · rw [addedTo_of_ne_nil (by simp [hr]), addedTo_of_ne_nil hr, hlines, List.append_assoc]
  · by_cases hm : more = []
    · subst hm
      rw [addedTo_nil]
      simp [between, spelledLines, Encoding.plainBytes]
    · have hbytes := plainBytes_ne_nil hf hr
      rw [addedTo_of_ne_nil hm, addedTo_of_ne_nil hr, between, if_neg (by simp [hbytes]),
        if_neg (by simp [hr, hm])]

theorem between_eq_nil (hx : ∀ x, e ≠ .escaping x) (records more : List Record) :
    between e records more = [] := by
  rw [between, Encoding.back_unknown hx]
  simp

theorem decode?_addedTo (hf : e.isFaithful = true) (old : List UInt8) (records : List Record) :
    e.decode? (addedTo e old records) = some (spelledLines records).flatten :=
  Encoding.decode?_plain hf _ (isPlain_flatten_spelledLines records)

/-- A mark is written at the beginning of a file, and nowhere else. -/
theorem mark_isPrefix_addedTo_iff (hm : e.mark ≠ []) (old : List UInt8) :
    e.mark <+: addedTo e old records ↔ old = [] ∧ records ≠ [] := by
  by_cases hr : records = []
  · subst hr
    rw [addedTo_nil]
    simp [hm]
  rw [addedTo_of_ne_nil hr]
  by_cases hold : old = []
  · subst hold
    simp [hr]
  · have hx : ∀ x, e ≠ .escaping x := by
      rintro x rfl
      exact hm rfl
    have hno := Encoding.not_mark_isPrefix hm (isPlain_flatten_spelledLines records)
    rw [Encoding.back_unknown hx]
    simp [hold, hno]

/-! ## Writing -/

theorem exists_writes_addedTo (hf : e.isFaithful = true) (old : List UInt8)
    (records : List Record) :
    ∃ f, e.Writes (.opened old.isEmpty) (spelledLines records) (addedTo e old records) f :=
  Encoding.exists_writes_plain hf (Encoding.isFree_opened _)
    fun t ht => (isPlain_spelledLines records t ht).1

theorem ends_write_content (h : IsOpen w p) (hs : s.IsFor e) (hf : e.isFaithful = true)
    (hr : ∀ r ∈ records, r.IsShort) (keep : Bool) :
    let old := keptBytes keep (w.files.find? (w.goal p))
    (write p keep s.encoding (content records)).Ends w (.ok ())
      (w.files.put (w.goal p) (.file (old ++ addedTo e old records))) := by
  intro old
  obtain ⟨f, hw⟩ := exists_writes_addedTo hf old records
  have hwrite := ends_write_known (isKnown_of_isFor hs) h.seek h.ne_directory keep (content records)
  dsimp only at hwrite
  rw [content_of_isShort hr, Encoding.encodeAll_of_writes hw] at hwrite
  rw [content_of_isShort hr]
  exact hwrite

/-- A file that is written anew has the bytes of the lines, however this is done. -/
theorem ends_truncating (h : IsOpen w p) (hs : s.IsFor e) (hf : e.isFaithful = true)
    (hr : ∀ r ∈ records, r.IsShort) (ht : s.existing ≠ appending) :
    (writeAll p records s).Ends w (.ok records.length)
      (w.files.put (w.goal p) (.file (addedTo e [] records))) := by
  unfold writeAll
  rw [if_neg ht]
  cases ha : s.isAtomic with
  | true =>
    have hl := (Workspace.seek_eq_ok_iff.1 h.seek).2
    obtain ⟨f, hw⟩ := exists_writes_addedTo hf [] records
    have hsucceeds : Succeeds w p s.encoding { texts := spelledLines records } e _ f :=
      ⟨isKnown_of_isFor hs, hw, rfl,
        moveRefusal?_eq_none_iff.2 ⟨hl, h.endsInName, h.ne_directory⟩⟩
    rw [← content_of_isShort hr] at hsucceeds
    exact ends_reported (ends_replace_of_succeeds h.hasRoom hsucceeds) _ _
  | false =>
    have hw := ends_write_content h hs hf hr false
    rw [keptBytes_false] at hw
    exact ends_reported hw _ _

/-- A file that is added to keeps its bytes. -/
theorem ends_appending (h : IsOpen w p) (hs : s.IsFor e) (hf : e.isFaithful = true)
    (hr : ∀ r ∈ records, r.IsShort) (ht : s.existing = appending) :
    let old := keptBytes true (w.files.find? (w.goal p))
    (writeAll p records s).Ends w (.ok records.length)
      (w.files.put (w.goal p) (.file (old ++ addedTo e old records))) := by
  unfold writeAll
  rw [if_pos ht]
  exact ends_reported (ends_write_content h hs hf hr true) _ _

/-- Records that are added one after the other are added as they are at once, but for what has to be
written once more. -/
theorem ends_appending_append (h : IsOpen w p) (hs : s.IsFor e) (hf : e.isFaithful = true)
    (hr : ∀ r ∈ records, r.IsShort) (hm : ∀ r ∈ more, r.IsShort) (ht : s.existing = appending) :
    let front := keptBytes true (w.files.find? (w.goal p)) ++
      addedTo e (keptBytes true (w.files.find? (w.goal p))) records
    ∃ rest, (writeAll p more s).Ends (w.on (w.files.put (w.goal p) (.file front)))
        (.ok more.length)
        (w.files.put (w.goal p) (.file (front ++ between e records more ++ rest))) ∧
      (writeAll p (records ++ more) s).Ends w (.ok (records ++ more).length)
        (w.files.put (w.goal p) (.file (front ++ rest))) := by
  intro front
  obtain ⟨rest, honce, htwice⟩ := addedTo_append hf (keptBytes true (w.files.find? (w.goal p)))
    records more
  have hboth : ∀ r ∈ records ++ more, r.IsShort := List.forall_mem_append.2 ⟨hr, hm⟩
  have hsecond := ends_appending (h.put front) hs hf hm ht
  have hfile := Tree.find?_put_self w.files (Tree.ne_nil_of_find? h.ne_directory) (.file front)
  dsimp only at hsecond
  rw [Workspace.files_on, Workspace.goal_on, hfile, keptBytes, if_pos rfl, Tree.put_put, htwice,
    ← List.append_assoc] at hsecond
  have hatOnce := ends_appending h hs hf hboth ht
  dsimp only at hatOnce
  rw [honce, ← List.append_assoc] at hatOnce
  exact ⟨rest, hsecond, hatOnce⟩

/-! ## All policies -/

/-- What holds of writing records with these settings, whatever the file had in it before. -/
structure Policies (w : Workspace) (p : Path) (records : List Record) (s : OutputSettings)
    (e : Encoding) : Prop where
  /-- The number that writing gives is that of the line feeds. -/
  lineFeeds : (spelledLines records).flatten.count '\n' = records.length
  /-- A file that is written anew has the text of the records, whether it is replaced as a whole or
  not, and is the same after each further time. -/
  truncates : s.existing ≠ appending → ∃ bytes,
    e.decode? bytes = some (spelledLines records).flatten ∧
    ∀ isAtomic,
      (writeAll p records { s with isAtomic }).Ends w (.ok records.length)
        (w.files.put (w.goal p) (.file bytes)) ∧
      (writeAll p records { s with isAtomic }).Ends
        (w.on (w.files.put (w.goal p) (.file bytes))) (.ok records.length)
        (w.files.put (w.goal p) (.file bytes))
  /-- A file that is added to keeps its bytes and has the text of the records behind them, with a
  mark only where it had no bytes. What is added twice is added as it is at once, but for an escape
  sequence where the encoding has them. -/
  appends : s.existing = appending → ∃ added,
    e.decode? added = some (spelledLines records).flatten ∧
    (e.mark ≠ [] → (e.mark <+: added ↔
      keptBytes true (w.files.find? (w.goal p)) = [] ∧ records ≠ [])) ∧
    let front := keptBytes true (w.files.find? (w.goal p)) ++ added
    (writeAll p records s).Ends w (.ok records.length) (w.files.put (w.goal p) (.file front)) ∧
    ∀ more, (∀ r ∈ more, r.IsShort) → ∃ rest,
      (writeAll p more s).Ends (w.on (w.files.put (w.goal p) (.file front))) (.ok more.length)
        (w.files.put (w.goal p) (.file (front ++ between e records more ++ rest))) ∧
      (writeAll p (records ++ more) s).Ends w (.ok (records ++ more).length)
        (w.files.put (w.goal p) (.file (front ++ rest))) ∧
      ((∀ x, e ≠ .escaping x) → between e records more = [])
  /-- Whatever else there is stays as it is, and nothing is added beside the file. -/
  others : ∀ r t, (writeAll p records s).Ends w r t →
    r = .ok records.length ∧ ∀ q, q ≠ w.goal p → t.find? q = w.files.find? q

/-- Records with numbers that are short enough, in all encodings but Punycode and IDNA, which add
something to the lines or leave something out. -/
theorem policies_writeAll (h : IsOpen w p) (hs : s.IsFor e) (hf : e.isFaithful = true)
    (hr : ∀ r ∈ records, r.IsShort) : Policies w p records s e where
  lineFeeds := count_lineFeed records
  truncates ht := by
    refine ⟨addedTo e [] records, decode?_addedTo hf [] records, fun isAtomic => ?_⟩
    have hs' : OutputSettings.IsFor { s with isAtomic } e := ⟨hs.named, hs.ne_undefined, hs.notNull⟩
    have hagain := ends_truncating (h.put (addedTo e [] records)) hs' hf hr ht
    rw [Workspace.files_on, Workspace.goal_on, Tree.put_put] at hagain
    exact ⟨ends_truncating h hs' hf hr ht, hagain⟩
  appends ht := by
    refine ⟨_, decode?_addedTo hf _ records, fun hm => mark_isPrefix_addedTo_iff hm _,
      ends_appending h hs hf hr ht, fun more hm => ?_⟩
    obtain ⟨rest, htwice, honce⟩ := ends_appending_append h hs hf hr hm ht
    exact ⟨rest, htwice, honce, fun hx => between_eq_nil hx records more⟩
  others := by
    intro r t ht
    obtain ⟨bytes, hw⟩ : ∃ bytes, (writeAll p records s).Ends w (.ok records.length)
        (w.files.put (w.goal p) (.file bytes)) := by
      by_cases ha : s.existing = appending
      · exact ⟨_, ends_appending h hs hf hr ha⟩
      · exact ⟨_, ends_truncating h hs hf hr ha⟩
    obtain ⟨rfl, rfl⟩ := ht.unique hw
    refine ⟨rfl, fun q hq => ?_⟩
    rw [Tree.find?_put _ (Tree.ne_nil_of_find? h.ne_directory), if_neg hq]

/-- A table of one record, behind a byte that is there, in UTF-16. -/
theorem policies_writeAll_behind :
    Policies { files := ⟨[([['o']], .file [0x78])]⟩ } ⟨[], [['o']]⟩ [.sentinel]
      { existing := appending, encoding := "utf-16".toList } (.utf16 .little true) :=
  policies_writeAll ⟨by simp, rfl, rfl, by decide, _, _, Draft.ends_make rfl⟩
    ⟨by decide, by decide, by decide⟩ rfl (by simp [IsShort, numbers])

/-- In an empty workspace there is a place for a file. -/
theorem isOpen_new : IsOpen {} ⟨[], [['o']]⟩ :=
  ⟨by simp, rfl, rfl, by decide, _, _, Draft.ends_make rfl⟩

/-- The record of a state whose number has one digit too many. -/
def longState : Record := .state (10 ^ Numeral.digitLimit : Nat) false false

/-- A number that is too long keeps its record from being written; in Punycode, where every ASCII
text is read back by itself, two lines are not; and in an encoding with escape sequences, two lines
that are added one after the other are not what they are at once. -/
theorem exists_not_policies :
    (∃ f t, (writeAll ⟨[], [['o']]⟩ [longState] { isAtomic := false }).Ends {} (.error f) t) ∧
    ((∀ t : Text, t.IsAscii →
        (Encoding.whole? .punycode t).bind (Encoding.decode? .punycode) = some t) ∧
      ∃ bytes, (writeAll ⟨[], [['o']]⟩ [.sentinel, .sentinel]
          { encoding := "punycode".toList, isAtomic := false }).Ends {} (.ok 2)
          ⟨[([['o']], .file bytes)]⟩ ∧
        Encoding.decode? .punycode bytes ≠ some (spelledLines [.sentinel, .sentinel]).flatten) ∧
    ∃ first once twice : Tree,
      let s : OutputSettings := { existing := appending, encoding := "iso2022_jp".toList }
      (writeAll ⟨[], [['o']]⟩ [.sentinel] s).Ends {} (.ok 1) first ∧
      (writeAll ⟨[], [['o']]⟩ [.sentinel] s).Ends (({} : Workspace).on first) (.ok 1) twice ∧
      (writeAll ⟨[], [['o']]⟩ [.sentinel, .sentinel] s).Ends {} (.ok 2) once ∧ twice ≠ once := by
  have hsentinel : ∀ r ∈ [sentinel], r.IsShort := by simp [IsShort, numbers]
  refine ⟨?_, ⟨fun t => Encoding.decode?_whole?_punycode, ?_⟩, ?_⟩
  · have hlong : ¬ longState.IsShort := by
      intro h
      have hid := h _ (List.mem_cons_self ..)
      rw [Int.natAbs_natCast] at hid
      exact Nat.lt_irrefl _ hid
    have hcontent : content [longState] =
        { texts := [], givenUp := some .tooLongToWrite } := by
      rw [content, render?_of_not_isShort hlong]
    have hk : IsKnown "utf-8".toList (.utf8 false) := ⟨by decide, rfl⟩
    have hw := ends_write_known hk isOpen_new.seek isOpen_new.ne_directory false
      { texts := [], givenUp := some .tooLongToWrite }
    refine ⟨.tooLongToWrite, ⟨[([['o']], .file [])]⟩, ?_⟩
    unfold writeAll
    rw [hcontent]
    exact ends_reported hw _ _
  · have hk : IsKnown "punycode".toList .punycode := ⟨by decide, rfl⟩
    have hw := ends_write_known hk isOpen_new.seek isOpen_new.ne_directory false
      (content [.sentinel, .sentinel])
    exact ⟨_, ends_reported hw _ 2, by decide +kernel⟩
  · have hs : OutputSettings.IsFor { existing := appending, encoding := "iso2022_jp".toList }
        (.escaping .jp) := ⟨by decide +kernel, by decide, by decide⟩
    obtain ⟨rest, htwice, honce⟩ := ends_appending_append isOpen_new hs rfl hsentinel hsentinel rfl
    refine ⟨_, _, _, ends_appending isOpen_new hs rfl hsentinel rfl, htwice, honce, fun h => ?_⟩
    have hbytes := Tree.put_file_injective (Tree.ne_nil_of_find? isOpen_new.ne_directory) h
    rw [List.append_cancel_right_eq, List.append_right_eq_self] at hbytes
    revert hbytes
    decide

end DfaTable.Record
