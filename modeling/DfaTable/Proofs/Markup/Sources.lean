import DfaTable.Proofs.Encoding.Ascii
import DfaTable.Proofs.Markup.Pausing

/-!
# DfaTable.Proofs.Markup.Sources

A document as text and in the bytes of UTF-8: how far the pieces are the same in which the two are
read, and how the bytes are known as UTF-8.

* `cutsNoLineEnd_feedText`, `cutsNoLineEnd_feedBytes`: no line end is cut by the pieces.
* `feedBytes_of_isAscii`, `feedBytes_of_length_le`: pieces of bytes that are the pieces of the text.
* `codingOf_encode_of_declaredName?`: the coding of bytes whose declaration names no other.
-/

namespace DfaTable
namespace Markup

open Text Encoding

namespace Source

/-! ## Line ends -/

theorem holdBack_of_waits {α : Type} {waits : α → Bool} {l : List α} {a : α}
    (h : l.getLast? = some a) (hw : waits a = true) : holdBack waits l = (l.dropLast, [a]) := by
  rw [holdBack, h, if_pos (by simpa using hw)]
  rfl

theorem holdBack_of_not_waits {α : Type} {waits : α → Bool} {l : List α}
    (h : ∀ a, l.getLast? = some a → waits a = false) : holdBack waits l = (l, []) := by
  rw [holdBack, if_neg]
  intro hw
  obtain ⟨a, ha, hw⟩ := (Option.any_eq_true _ _).1 hw
  rw [h a ha] at hw
  cases hw

/-- Where what waits still stands at the end, one more of it is held back. -/
theorem later_of_holdBack {α : Type} {waits : α → Bool} {l now later : List α} {a : α}
    (hb : holdBack waits l = (now, later)) (hw : waits a = true) (h : now.getLast? = some a) :
    ∃ b, later = [b] ∧ waits b = true := by
  cases hl : l.getLast? with
  | none =>
    obtain rfl : l = [] := List.getLast?_eq_none_iff.1 hl
    cases hb
    cases h
  | some b =>
    cases hbw : waits b with
    | true =>
      rw [holdBack_of_waits hl hbw] at hb
      cases hb
      exact ⟨b, rfl, hbw⟩
    | false =>
      rw [holdBack_of_not_waits fun c hc => by rwa [← Option.some.inj (hl.symm.trans hc)]] at hb
      cases hb
      rw [Option.some.inj (hl.symm.trans h), hw] at hbw
      cases hbw

theorem cutsNoLineEnd_cons {f : Feed} {t now : Text} (h : f.Spells t)
    (hr : ∀ last, f.last? = some last → Feed.CutsNoLineEnd f.pieces last)
    (hn : now.getLast? = some '\r' → t.head? ≠ some '\n') :
    ∀ last, f.last? = some last → Feed.CutsNoLineEnd (inputOf now :: f.pieces) last := by
  intro last hl
  obtain ⟨last', hl', ht⟩ := h
  obtain rfl : last = last' := Option.some.inj (hl.symm.trans hl')
  refine ⟨fun hc => ?_, hr last hl⟩
  rw [ht]
  intro hm
  refine hn ?_ ?_
  · rw [inputOf, List.getLast?_map] at hc
    obtain ⟨c, hc, he⟩ := Option.map_eq_some_iff.1 hc
    cases he
    exact hc
  · rw [inputOf, List.head?_map] at hm
    obtain ⟨c, hc, he⟩ := Option.map_eq_some_iff.1 hm
    cases he
    exact hc

theorem cutsNoLineEnd_feedText (held : Text) (pieces : List Text) :
    ∀ last, (feedText held pieces).last? = some last →
      Feed.CutsNoLineEnd (feedText held pieces).pieces last := by
  induction pieces generalizing held with
  | nil => exact fun _ _ => trivial
  | cons piece pieces ih =>
    cases hb : holdBack (· == '\r') (held ++ piece) with
    | mk now later =>
      simp only [feedText, hb]
      refine cutsNoLineEnd_cons (spells_feedText later pieces) (ih later) fun hc => ?_
      obtain ⟨b, rfl, hw⟩ := later_of_holdBack hb (beq_self_eq_true _) hc
      rw [eq_of_beq hw]
      exact fun hn => by cases hn

theorem getLast?_encodeChar_eq_iff {c : Char} :
    (Utf8.encodeChar c).getLast? = some 0x0D ↔ c = '\r' := by
  rcases Coding.encodeChar_cases c with ⟨hc, he⟩ | ⟨first, more, he, hf, hm, ht⟩
  · rw [he, List.getLast?_singleton, Option.some.injEq, ← UInt8.toNat_inj,
      UInt8.toNat_ofNat_of_lt' (show c.toNat < 256 by omega)]
    exact ⟨fun h => Char.toNat_inj.1 h, fun h => by rw [h]; rfl⟩
  · have hne : more ≠ [] := fun h => by
      rw [h] at hm
      unfold Coding.due at hm
      split at hm
      · cases hm
      split at hm <;> cases hm
    have hlast : (Utf8.encodeChar c).getLast? = some (more.getLast hne) := by
      rw [he, List.getLast?_cons, List.getLast?_eq_some_getLast hne]
      rfl
    constructor
    · intro h
      have htail := ht _ (List.getLast_mem hne)
      rw [Option.some.inj (hlast.symm.trans h)] at htail
      cases htail
    · rintro rfl
      obtain ⟨hf', -⟩ := List.cons.inj ((show Utf8.encodeChar '\r' = [0x0D] from rfl).symm.trans he)
      rw [← hf'] at hf
      exact absurd hf (by decide)

theorem getLast?_encode_eq_iff {t : Text} :
    (Utf8.encode t).getLast? = some 0x0D ↔ t.getLast? = some '\r' := by
  rcases List.eq_nil_or_concat t with rfl | ⟨u, c, rfl⟩
  · exact iff_of_false nofun nofun
  · obtain ⟨b, hb⟩ : ∃ b, (Utf8.encodeChar c).getLast? = some b := by
      obtain ⟨b, more, he, -⟩ := Utf8.first_encodeChar c []
      rw [he]
      exact ⟨_, List.getLast?_cons⟩
    rw [List.concat_eq_append, Coding.encode_append, List.getLast?_append, List.getLast?_concat,
      show Utf8.encode [c] = Utf8.encodeChar c from List.append_nil _, hb, Option.some_or, ← hb,
      getLast?_encodeChar_eq_iff, Option.some.injEq]

/-- A line feed is none of the bytes of a character that is cut off. -/
theorem head?_ne_of_cut {t : Text} {cut rest : List UInt8} (hc : cut ≠ [])
    (hs : (Coding.utf8Symbols cut).1 = []) (h : cut ++ rest = Utf8.encode t) :
    t.head? ≠ some '\n' := by
  intro hn
  obtain ⟨t, rfl⟩ := List.head?_eq_some_iff.1 hn
  obtain ⟨b, cut, rfl⟩ := List.exists_cons_of_ne_nil hc
  obtain ⟨rfl, -⟩ : b = 0x0A ∧ _ := List.cons.inj h
  rw [Coding.utf8Symbols, if_pos (by decide)] at hs
  cases hs

theorem cutsNoLineEnd_feedBytes {t : Text} {waiting : List UInt8} {pieces : List (List UInt8)}
    (h : waiting ++ pieces.flatten = Utf8.encode t) :
    ∀ last, (feedBytes .utf8 waiting pieces).last? = some last →
      Feed.CutsNoLineEnd (feedBytes .utf8 waiting pieces).pieces last := by
  induction pieces generalizing t waiting with
  | nil => exact fun _ _ => trivial
  | cons piece pieces ih =>
    cases hb : holdBack (· == 0x0D) (waiting ++ piece) with
    | mk now later =>
      have ha := holdBack_append (· == 0x0D) (waiting ++ piece)
      rw [hb] at ha
      rw [List.flatten_cons, ← List.append_assoc, ← ha, List.append_assoc] at h
      obtain ⟨u, v, cut, rfl, rfl, hs⟩ :=
        Coding.utf8Symbols_of_prefix ⟨later ++ pieces.flatten, h⟩
      have hr : cut ++ later ++ pieces.flatten = Utf8.encode v := by
        rw [Coding.encode_append, List.append_assoc, List.append_cancel_left_eq] at h
        rw [List.append_assoc, h]
      simp only [feedBytes, hb, Coding.symbols?, hs]
      refine cutsNoLineEnd_cons (spells_feedBytes hr) (ih hr) fun hu => ?_
      by_cases hc : cut = []
      · subst hc
        have hnow : (Utf8.encode u ++ []).getLast? = some 0x0D := by
          rw [List.append_nil]
          exact getLast?_encode_eq_iff.2 hu
        obtain ⟨b, rfl, hw⟩ := later_of_holdBack hb (beq_self_eq_true _) hnow
        intro hn
        obtain ⟨v, rfl⟩ := List.head?_eq_some_iff.1 hn
        rw [eq_of_beq hw] at hr
        cases (List.cons.inj hr).1
      · rw [Coding.utf8Symbols_encode_append] at hs
        rw [List.append_assoc] at hr
        exact head?_ne_of_cut hc (List.append_right_eq_self.1 (congrArg Prod.fst hs)) hr

/-! ## The same pieces -/

theorem holdBack_encode (t : Text) :
    holdBack (· == 0x0D) (Utf8.encode t) =
      (Utf8.encode (holdBack (· == '\r') t).1, Utf8.encode (holdBack (· == '\r') t).2) := by
  by_cases h : t.getLast? = some '\r'
  · rw [holdBack_of_waits h rfl, holdBack_of_waits (getLast?_encode_eq_iff.2 h) rfl]
    obtain ⟨u, rfl⟩ := List.getLast?_eq_some_iff.1 h
    rw [Coding.encode_append, List.dropLast_concat]
    exact congrArg (·, _) List.dropLast_concat
  · rw [holdBack_of_not_waits fun c hc => ?_, holdBack_of_not_waits fun b hb => ?_]
    · rfl
    · rw [beq_eq_false_iff_ne]
      rintro rfl
      exact h hb
    · rw [beq_eq_false_iff_ne]
      rintro rfl
      exact h (getLast?_encode_eq_iff.1 hc)

/-- Pieces that hold whole characters are the pieces of the text. -/
theorem feedBytes_encode (held : Text) (pieces : List Text) :
    feedBytes .utf8 (Utf8.encode held) (pieces.map Utf8.encode) = feedText held pieces := by
  induction pieces generalizing held with
  | nil => simp [feedBytes, feedText, Coding.symbols?, Coding.utf8Symbols_encode]
  | cons piece pieces ih =>
    simp only [List.map_cons, feedBytes, feedText, ← Coding.encode_append, holdBack_encode,
      Coding.symbols?, Coding.utf8Symbols_encode, List.nil_append, ih]

theorem inPieces_map {α β : Type} (f : α → β) (size : Nat) (l : List α) :
    inPieces size (l.map f) = (inPieces size l).map (List.map f) := by
  fun_induction inPieces size l with
  | case1 l h =>
    rw [inPieces, dif_pos (by simpa using h)]
    rfl
  | case2 l h ih =>
    rw [inPieces, dif_neg (by simpa using h), List.map_cons, List.map_take, ← List.map_drop, ih]

theorem inPieces_of_length_le {α : Type} {size : Nat} {l : List α} (h : l.length ≤ size)
    (hl : l ≠ []) : inPieces size l = [l] := by
  have hs : size ≠ 0 := fun hs => hl (List.eq_nil_of_length_eq_zero (by omega))
  rw [inPieces, dif_neg (by simp [hl, hs]), List.take_of_length_le h, List.drop_of_length_le h,
    inPieces, dif_pos (.inl rfl)]

theorem encode_of_isAscii {t : Text} (h : t.IsAscii) :
    Utf8.encode t = t.map fun c => UInt8.ofNat c.toNat := by
  induction t with
  | nil => rfl
  | cons c t ih =>
    have hc : Utf8.encodeChar c = [UInt8.ofNat c.toNat] := by
      rw [Utf8.encodeChar, if_pos (h c (List.mem_cons_self ..))]
    rw [Utf8.encode, List.flatMap_cons, hc]
    exact congrArg (_ :: ·) (ih fun d hd => h d (List.mem_cons_of_mem _ hd))

theorem feedBytes_of_isAscii {t : Text} (h : t.IsAscii) (size : Nat) :
    feedBytes .utf8 [] (inPieces size (Utf8.encode t)) = feedText [] (inPieces size t) := by
  have hp : inPieces size (Utf8.encode t) = (inPieces size t).map Utf8.encode := by
    rw [encode_of_isAscii h, inPieces_map]
    refine List.map_congr_left fun piece hm => (encode_of_isAscii fun c hc => h c ?_).symm
    by_cases hs : size = 0
    · subst hs
      rw [inPieces, dif_pos (.inr rfl)] at hm
      cases hm
    · rw [← flatten_inPieces hs t]
      exact List.mem_flatten_of_mem hm hc
  rw [hp]
  exact feedBytes_encode [] _

theorem length_le_length_encode (t : Text) : t.length ≤ (Utf8.encode t).length := by
  induction t with
  | nil => exact Nat.le_refl _
  | cons c t ih =>
    obtain ⟨b, more, he, -⟩ := Utf8.first_encodeChar c []
    rw [Utf8.encode, List.flatMap_cons, he, List.length_append, List.length_cons, List.length_cons]
    have : (t.flatMap Utf8.encodeChar).length = (Utf8.encode t).length := rfl
    omega

theorem feedBytes_of_length_le {t : Text} {size : Nat} (h : (Utf8.encode t).length ≤ size) :
    feedBytes .utf8 [] (inPieces size (Utf8.encode t)) = feedText [] (inPieces size t) := by
  have hl := length_le_length_encode t
  by_cases ht : t = []
  · subst ht
    rw [inPieces, dif_pos (.inl rfl), inPieces, dif_pos (.inl rfl)]
    exact feedBytes_encode [] []
  · have hne : Utf8.encode t ≠ [] := fun he => by
      rw [he] at hl
      exact ht (List.eq_nil_of_length_eq_zero (Nat.le_zero.1 hl))
    rw [inPieces_of_length_le h hne, inPieces_of_length_le (Nat.le_trans hl h) ht]
    exact feedBytes_encode [] [t]

/-! ## Marks -/

theorem toNat_lt_of_mem_encodeChar {c : Char} {b : UInt8} (h : b ∈ Utf8.encodeChar c) :
    b.toNat < 0xF8 := by
  have hs := Utf8.toNat_isScalar c
  have ht : ∀ n, (Utf8.tail n).toNat < 0xF8 := fun n => by
    rw [Utf8.toNat_tail]
    omega
  have hf : ∀ n, n < 0xF8 → (UInt8.ofNat n).toNat < 0xF8 := fun n hn => by
    rw [UInt8.toNat_ofNat_of_lt' (show n < 256 by omega)]
    exact hn
  simp only [Utf8.encodeChar] at h
  split at h
  · rw [List.mem_singleton.1 h]
    exact hf _ (by omega)
  split at h
  · simp only [List.mem_cons, List.not_mem_nil, or_false] at h
    rcases h with rfl | rfl
    · exact hf _ (by omega)
    · exact ht _
  split at h
  · simp only [List.mem_cons, List.not_mem_nil, or_false] at h
    rcases h with rfl | rfl | rfl
    · exact hf _ (by omega)
    · exact ht _
    · exact ht _
  · simp only [List.mem_cons, List.not_mem_nil, or_false] at h
    rcases h with rfl | rfl | rfl | rfl
    · exact hf _ (by omega)
    · exact ht _
    · exact ht _
    · exact ht _

/-- The bytes of a text begin with a mark only where the text does. -/
theorem marked?_encode {t : Text} (h : t.head? ≠ some '\uFEFF') :
    marked? (Utf8.encode t) = none := by
  have hb : ∀ b ∈ Utf8.encode t, b.toNat < 0xF8 := fun b hb =>
    have ⟨_, _, hc⟩ := List.mem_flatMap.1 hb
    toNat_lt_of_mem_encodeChar hc
  unfold marked?
  split
  · rename_i rest he
    have hs := Coding.utf8Symbols_encode t
    rw [he, show (0xEF :: 0xBB :: 0xBF :: rest : List UInt8) =
      Utf8.encodeChar '\uFEFF' ++ rest from rfl, Coding.utf8Symbols_encodeChar] at hs
    cases t with
    | nil => cases he
    | cons c t =>
      obtain ⟨hc, -⟩ := List.cons.inj (congrArg Prod.fst hs)
      cases hc
      exact absurd rfl h
  all_goals first
    | rfl
    | rename_i he
      rw [he] at hb
      simp at hb

theorem codingOf_encode_of_mark (t : Text) :
    codingOf (Utf8.encode ('\uFEFF' :: t)) = (.utf8, Utf8.encode t) := rfl

/-- The bytes of a text whose declaration names no other coding. -/
theorem codingOf_encode_of_declaredName? {t : Text} (h : t.head? ≠ some '\uFEFF')
    (hd : ∀ name, declaredName? (Utf8.encode t) = some name → Coding.named name = .utf8) :
    codingOf (Utf8.encode t) = (.utf8, Utf8.encode t) := by
  rw [codingOf, marked?_encode h]
  cases hn : declaredName? (Utf8.encode t) with
  | none => rfl
  | some name => exact congrArg (·, _) (hd name hn)

end Source
end Markup
end DfaTable
