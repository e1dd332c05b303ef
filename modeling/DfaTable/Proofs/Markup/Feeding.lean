import DfaTable.Markup.Source

/-!
# DfaTable.Proofs.Markup.Feeding

How a document is cut up does not change what it says: the pieces in which it comes in, one after
the other, are its text.

* `spells_text`: a document that is given as text.
* `utf8Symbols_of_prefix`: bytes that break off inside a text keep only what is left of a character.
* `spells_utf8`: a document that is given in the bytes of UTF-8.
-/

namespace DfaTable
namespace Markup

open Text Encoding

@[simp] theorem inputOf_nil : inputOf [] = [] := rfl

@[simp] theorem inputOf_cons (c : Char) (t : Text) : inputOf (c :: t) = .char c :: inputOf t := rfl

@[simp] theorem inputOf_append (t u : Text) : inputOf (t ++ u) = inputOf t ++ inputOf u :=
  List.map_append

theorem char_mem_inputOf {c : Char} {t : Text} : .char c ∈ inputOf t ↔ c ∈ t := by
  constructor
  · intro h
    obtain ⟨d, hd, he⟩ := List.mem_map.1 h
    cases he
    exact hd
  · exact List.mem_map_of_mem

/-- The pieces, and what comes last, are a text. -/
def Feed.Spells (f : Feed) (t : Text) : Prop :=
  ∃ last, f.last? = some last ∧ f.pieces.flatten ++ last = inputOf t

theorem Feed.Spells.cons {f : Feed} {t : Text} (h : f.Spells t) (piece : Text) :
    Feed.Spells { f with pieces := inputOf piece :: f.pieces } (piece ++ t) := by
  obtain ⟨last, hl, ht⟩ := h
  refine ⟨last, hl, ?_⟩
  rw [List.flatten_cons, List.append_assoc, ht, inputOf_append]

namespace Source

theorem holdBack_append {α : Type} (waits : α → Bool) (l : List α) :
    (holdBack waits l).1 ++ (holdBack waits l).2 = l := by
  unfold holdBack
  split
  · rename_i h
    obtain ⟨a, ha, -⟩ := (Option.any_eq_true _ _).1 h
    obtain ⟨front, rfl⟩ := List.getLast?_eq_some_iff.1 ha
    simp
  · simp

theorem flatten_inPieces {α : Type} {size : Nat} (hs : size ≠ 0) (l : List α) :
    (inPieces size l).flatten = l := by
  fun_induction inPieces size l with
  | case1 l h =>
    rcases h with rfl | h
    · rfl
    · exact absurd h hs
  | case2 l _ ih => rw [List.flatten_cons, ih, List.take_append_drop]

theorem spells_feedText (held : Text) (pieces : List Text) :
    (feedText held pieces).Spells (held ++ pieces.flatten) := by
  induction pieces generalizing held with
  | nil => exact ⟨inputOf held, rfl, by simp [feedText]⟩
  | cons piece pieces ih =>
    have hb := holdBack_append (· == '\r') (held ++ piece)
    have h := (ih (holdBack (· == '\r') (held ++ piece)).2).cons
      (holdBack (· == '\r') (held ++ piece)).1
    rw [← List.append_assoc, hb, List.append_assoc] at h
    exact h

/-- A text without a mark in front of it. -/
def unmarked : Text → Text
  | '\uFEFF' :: t => t
  | t => t

theorem unmarked_cases (t : Text) :
    (t = '\uFEFF' :: unmarked t) ∨ (t.head? ≠ some '\uFEFF' ∧ unmarked t = t) := by
  unfold unmarked
  split
  · exact .inl rfl
  · rename_i h
    refine .inr ⟨fun hm => ?_, rfl⟩
    obtain ⟨u, rfl⟩ := List.head?_eq_some_iff.1 hm
    exact h u rfl

theorem feed_text (t : Text) :
    (Source.text t).feed = feedText [] (inPieces pieceSize (unmarked t)) := by
  rcases unmarked_cases t with h | ⟨h, hu⟩
  · rw [h]
    rfl
  · rw [hu]
    unfold feed
    split
    · rename_i ht
      cases ht
      exact absurd rfl h
    · rename_i ht
      cases ht
      rfl
    · rename_i ht
      cases ht

theorem spells_inPieces (t : Text) : (feedText [] (inPieces pieceSize t)).Spells t := by
  have hs := spells_feedText [] (inPieces pieceSize t)
  rwa [flatten_inPieces (by decide), List.nil_append] at hs

theorem spells_text {t : Text} (h : t.head? ≠ some '\uFEFF') : (Source.text t).feed.Spells t := by
  obtain ⟨-, hu⟩ := (unmarked_cases t).resolve_left fun ht => h (by rw [ht]; rfl)
  rw [feed_text, hu]
  exact spells_inPieces t

end Source

/-! ## Bytes -/

namespace Coding

/-- The bytes behind the first one of a character, as many as that byte asks for. -/
def due (first : UInt8) : Nat := if first < 0xE0 then 1 else if first < 0xF0 then 2 else 3

theorem isTail_tail (n : Nat) : isTail (Utf8.tail n) = true := by
  have h := Utf8.toNat_tail n
  simp only [isTail, Bool.and_eq_true, decide_eq_true_eq, UInt8.le_iff_toNat_le,
    UInt8.lt_iff_toNat_lt, h, UInt8.toNat_ofNat]
  omega

theorem due_of_toNat {first : UInt8} {n : Nat} (h : first.toNat = n) :
    due first = if n < 0xE0 then 1 else if n < 0xF0 then 2 else 3 := by
  simp [due, UInt8.lt_iff_toNat_lt, h]

/-- A character is one byte below 128, or a byte above it with the continuation bytes due. -/
theorem encodeChar_cases (c : Char) :
    (c.toNat < 0x80 ∧ Utf8.encodeChar c = [UInt8.ofNat c.toNat]) ∨
      ∃ first more, Utf8.encodeChar c = first :: more ∧ 0x80 ≤ first.toNat ∧
        more.length = due first ∧ ∀ b ∈ more, isTail b = true := by
  have hs := Utf8.toNat_isScalar c
  have ht : ∀ n, isTail (Utf8.tail n) = true := isTail_tail
  simp only [Utf8.encodeChar]
  split
  · exact .inl ⟨‹_›, rfl⟩
  refine .inr ?_
  split
  · have hb : (UInt8.ofNat (0xC0 + c.toNat / 64)).toNat = 0xC0 + c.toNat / 64 :=
      UInt8.toNat_ofNat_of_lt' (show _ < 256 by omega)
    refine ⟨_, _, rfl, by omega, ?_, by simp [ht]⟩
    rw [due_of_toNat hb, if_pos (by omega)]
    rfl
  split
  · have hb : (UInt8.ofNat (0xE0 + c.toNat / 4096)).toNat = 0xE0 + c.toNat / 4096 :=
      UInt8.toNat_ofNat_of_lt' (show _ < 256 by omega)
    refine ⟨_, _, rfl, by omega, ?_, by simp [ht]⟩
    rw [due_of_toNat hb, if_neg (by omega), if_pos (by omega)]
    rfl
  · have hb : (UInt8.ofNat (0xF0 + c.toNat / 262144)).toNat = 0xF0 + c.toNat / 262144 :=
      UInt8.toNat_ofNat_of_lt' (show _ < 256 by omega)
    refine ⟨_, _, rfl, by omega, ?_, by simp [ht]⟩
    rw [due_of_toNat hb, if_neg (by omega), if_neg (by omega)]
    rfl

theorem encode_append (t u : Text) : Utf8.encode (t ++ u) = Utf8.encode t ++ Utf8.encode u :=
  List.flatMap_append

theorem utf8Symbols_encodeChar (c : Char) (rest : List UInt8) :
    utf8Symbols (Utf8.encodeChar c ++ rest) =
      (.char c :: (utf8Symbols rest).1, (utf8Symbols rest).2) := by
  rcases encodeChar_cases c with ⟨hc, he⟩ | ⟨first, more, he, hf, hl, ht⟩
  · have hb : (UInt8.ofNat c.toNat).toNat = c.toNat :=
      UInt8.toNat_ofNat_of_lt' (show _ < 256 by omega)
    have hlt : UInt8.ofNat c.toNat < 0x80 := UInt8.lt_iff_toNat_lt.2 (by rw [hb]; exact hc)
    rw [he, List.singleton_append, utf8Symbols, if_pos hlt, hb, Char.ofNat_toNat]
  · have hn : ¬ first < 0x80 := fun h => by
      have := UInt8.lt_iff_toNat_lt.1 h
      simp at this
      omega
    have hcut : isCut first (more ++ rest) = false := by
      have : ((more ++ rest).take (due first)).length = due first := by
        rw [List.length_take, List.length_append]
        omega
      simp only [isCut]
      rw [show (if first < 0xE0 then 1 else if first < 0xF0 then 2 else 3) = due first from rfl,
        this]
      simp
    obtain ⟨b, more', he', hr⟩ := Utf8.first_encodeChar c rest
    rw [he] at he'
    obtain ⟨rfl, rfl⟩ := List.cons.inj he'
    rw [he, List.cons_append, utf8Symbols, if_neg hn, hcut, hr]
    simp

theorem utf8Symbols_encode_append (t : Text) (rest : List UInt8) :
    utf8Symbols (Utf8.encode t ++ rest) =
      (inputOf t ++ (utf8Symbols rest).1, (utf8Symbols rest).2) := by
  induction t with
  | nil => rfl
  | cons c t ih =>
    rw [Utf8.encode, List.flatMap_cons, List.append_assoc, utf8Symbols_encodeChar]
    rw [show t.flatMap Utf8.encodeChar = Utf8.encode t from rfl, ih]
    rfl

theorem utf8Symbols_encode (t : Text) : utf8Symbols (Utf8.encode t) = (inputOf t, []) := by
  have h := utf8Symbols_encode_append t []
  rwa [List.append_nil, show utf8Symbols [] = ([], []) by rw [utf8Symbols], List.append_nil] at h

/-- The bytes of a character wait as long as one of them is missing. -/
theorem utf8Symbols_cut {c : Char} {cut : List UInt8} (hp : cut <+: Utf8.encodeChar c)
    (hl : cut.length < (Utf8.encodeChar c).length) : utf8Symbols cut = ([], cut) := by
  cases cut with
  | nil => simp [utf8Symbols]
  | cons b part =>
    rcases encodeChar_cases c with ⟨-, he⟩ | ⟨first, more, he, hf, hd, ht⟩
    · rw [he] at hl
      simp at hl
    · rw [he] at hp hl
      obtain ⟨rfl, hq⟩ := List.cons_prefix_cons.1 hp
      have hn : ¬ b < 0x80 := fun h => by
        have := UInt8.lt_iff_toNat_lt.1 h
        simp at this
        omega
      have hlt : part.length < due b := by
        simp only [List.length_cons] at hl
        omega
      have hcut : isCut b part = true := by
        simp only [isCut]
        rw [show (if b < 0xE0 then 1 else if b < 0xF0 then 2 else 3) = due b from rfl,
          List.take_of_length_le (by omega)]
        simp only [Bool.and_eq_true, decide_eq_true_eq, List.all_eq_true]
        exact ⟨hlt, fun x hx => ht x (hq.subset hx)⟩
      rw [utf8Symbols, if_neg hn, hcut]
      simp

/-- Where bytes break off inside a text, the characters before are read. -/
theorem utf8Symbols_of_prefix {t : Text} {bytes : List UInt8} (h : bytes <+: Utf8.encode t) :
    ∃ u v cut, t = u ++ v ∧ bytes = Utf8.encode u ++ cut ∧
      utf8Symbols bytes = (inputOf u, cut) := by
  induction t generalizing bytes with
  | nil =>
    obtain rfl : bytes = [] := List.prefix_nil.1 h
    exact ⟨[], [], [], rfl, rfl, by simp [utf8Symbols]⟩
  | cons c t ih =>
    have he : Utf8.encode (c :: t) = Utf8.encodeChar c ++ Utf8.encode t := rfl
    rw [he] at h
    -- The first character is there as a whole, or the bytes break off inside it.
    by_cases hl : bytes.length < (Utf8.encodeChar c).length
    · have hp : bytes <+: Utf8.encodeChar c :=
        List.prefix_of_prefix_length_le h (List.prefix_append ..) (by omega)
      exact ⟨[], c :: t, bytes, rfl, rfl, utf8Symbols_cut hp hl⟩
    · obtain ⟨more, rfl⟩ : Utf8.encodeChar c <+: bytes :=
        List.prefix_of_prefix_length_le (List.prefix_append ..) h (by omega)
      obtain ⟨u, v, cut, rfl, rfl, hs⟩ := ih ((List.prefix_append_right_inj _).1 h)
      refine ⟨c :: u, v, cut, rfl, ?_, ?_⟩
      · rw [← List.append_assoc]
        rfl
      · rw [utf8Symbols_encodeChar, hs]
        rfl

end Coding

namespace Source

/-- What waits and what has still to come in are the bytes of the rest of the text. -/
theorem spells_feedBytes {t : Text} {waiting : List UInt8} {pieces : List (List UInt8)}
    (h : waiting ++ pieces.flatten = Utf8.encode t) :
    (feedBytes .utf8 waiting pieces).Spells t := by
  induction pieces generalizing t waiting with
  | nil =>
    have hw : waiting = Utf8.encode t := by simpa using h
    refine ⟨inputOf t, ?_, by simp [feedBytes]⟩
    simp [feedBytes, Coding.symbols?, hw, Coding.utf8Symbols_encode]
  | cons piece pieces ih =>
    cases hb : holdBack (· == 0x0D) (waiting ++ piece) with
    | mk now later =>
      have ha := holdBack_append (· == 0x0D) (waiting ++ piece)
      rw [hb] at ha
      rw [List.flatten_cons, ← List.append_assoc, ← ha, List.append_assoc] at h
      obtain ⟨u, v, cut, rfl, rfl, hs⟩ :=
        Coding.utf8Symbols_of_prefix ⟨later ++ pieces.flatten, h⟩
      have hr : cut ++ later ++ pieces.flatten = Utf8.encode v := by
        rw [Coding.encode_append, List.append_assoc, List.append_cancel_left_eq] at h
        rw [List.append_assoc, h]
      have hf := (ih hr).cons u
      simpa only [feedBytes, hb, Coding.symbols?, hs] using hf

/-- The pieces of the bytes of a text are those bytes. -/
theorem flatten_inPieces_encode (t : Text) :
    [] ++ (inPieces pieceSize (Utf8.encode t)).flatten = Utf8.encode t :=
  flatten_inPieces (by decide) _

theorem spells_utf8 {b rest : List UInt8} {t : Text} (hc : codingOf b = (.utf8, rest))
    (h : rest = Utf8.encode t) : (Source.bytes b).feed.Spells t := by
  subst h
  simpa only [feed, hc] using spells_feedBytes (flatten_inPieces_encode t)

end Source
end Markup
end DfaTable
