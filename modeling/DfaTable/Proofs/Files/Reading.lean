import DfaTable.Files.Reading

/-!
# DfaTable.Proofs.Files.Reading

Files that are read as one piece. What is wrong with the bytes of such a file always comes to light:
`exists_flaw_readText`.
-/

namespace DfaTable

open Encoding

theorem Text.length_unifyLineEnds_le (t : Text) : t.unifyLineEnds.length ≤ t.length := by
  fun_induction Text.unifyLineEnds t with
  | case1 => exact Nat.le_refl _
  | case2 rest ih => simp only [List.length_cons]; omega
  | case3 rest _ ih => simpa using ih
  | case4 c rest _ _ ih => simpa using ih

/-- Text may be cut anywhere but between the two characters of a line end. -/
theorem Text.unifyLineEnds_append {u v : Text}
    (h : u.getLast? = some '\r' → v.head? ≠ some '\n') :
    (u ++ v).unifyLineEnds = u.unifyLineEnds ++ v.unifyLineEnds := by
  fun_induction Text.unifyLineEnds u with
  | case1 => rfl
  | case2 rest ih =>
    have hr : rest.getLast? = some '\r' → v.head? ≠ some '\n' := fun hl =>
      h (by rw [List.getLast?_cons, List.getLast?_cons, hl]; rfl)
    simp only [List.cons_append, unifyLineEnds, ih hr]
  | case3 rest hn ih =>
    have hr : rest.getLast? = some '\r' → v.head? ≠ some '\n' := fun hl =>
      h (by rw [List.getLast?_cons, hl]; rfl)
    have hnv : ∀ w, rest ++ v = '\n' :: w → False := by
      intro w hw
      cases rest with
      | nil => exact h rfl (by rw [show v = '\n' :: w from hw]; rfl)
      | cons d rest =>
        cases hw
        exact hn rest rfl
    rw [List.cons_append, unifyLineEnds.eq_3 _ hnv, ih hr, List.cons_append]
  | case4 c rest h₁ h₂ ih =>
    have hr : rest.getLast? = some '\r' → v.head? ≠ some '\n' := fun hl =>
      h (by rw [List.getLast?_cons, hl]; rfl)
    rw [List.cons_append, unifyLineEnds.eq_4 _ _ (fun w hc _ => h₂ hc) h₂, ih hr, List.cons_append]

namespace Files

variable {bytes : List UInt8} {b : Utf8.Broken}

/-- Bytes that are no text are found wrong in their piece, or end in the beginning of a character
that the next piece is asked for. -/
theorem decodePiece_of_decodeFrom {position : Nat} (h : Utf8.decodeFrom position bytes = .error b) :
    decodePiece position bytes = .error b ∨
      ∃ t c rest x, decodePiece position bytes = .ok (t, c :: rest) ∧
        Utf8.first c rest = .error x ∧ t.length < bytes.length := by
  fun_induction decodePiece position bytes with
  | case1 position =>
    unfold Utf8.decodeFrom at h
    cases h
  | case2 position c rest d n hfirst ih =>
    rw [Utf8.decodeFrom, hfirst] at h
    cases hd : Utf8.decodeFrom (position + n + 1) (rest.drop n) with
    | ok t => simp [hd, Except.map] at h
    | error b' =>
      simp only [hd, Except.map, Except.error.injEq] at h
      subst h
      rcases ih hd with hp | ⟨t, e, more, x, hp, hx, ht⟩
      · exact .inl (by rw [hp]; rfl)
      · refine .inr ⟨d :: t, e, more, x, by rw [hp]; rfl, hx, ?_⟩
        simp only [List.length_drop, List.length_cons] at ht ⊢
        omega
  | case3 position c rest n hfirst =>
    exact .inr ⟨[], c, rest, _, rfl, hfirst, Nat.zero_lt_succ _⟩
  | case4 position c rest flaw n hflaw hfirst hhalf =>
    exact .inr ⟨[], c, rest, _, rfl, hfirst, Nat.zero_lt_succ _⟩
  | case5 position c rest flaw n hflaw hfirst hhalf =>
    simp only [Utf8.decodeFrom, hfirst] at h
    cases h
    exact .inl rfl

theorem length_add_le (size : Nat) (t : Text) (tail : List UInt8) :
    (Progress.add {} size t tail).2.length ≤ t.length := by
  unfold Progress.add
  simp only [Bool.false_and, Bool.false_eq_true, if_false]
  refine Nat.le_trans (Text.length_unifyLineEnds_le _) ?_
  split <;> simp

/-! ## Short files -/

theorem nextSize_ge (hl : bytes.length ≤ pieceSize) : bytes.length ≤ Progress.nextSize {} :=
  Nat.le_trans hl (Nat.le_max_left ..)

theorem readPieces_of_error (hl : bytes.length ≤ pieceSize) (h : decodePiece 0 bytes = .error b) :
    readPieces {} bytes = { text := [], flaw := some b } := by
  cases bytes with
  | nil => simp [decodePiece] at h
  | cons c rest =>
    rw [readPieces]
    simp only [List.take_of_length_le (nextSize_ge hl), List.nil_append, h]

theorem readPieces_of_ok {t : Text} {c : UInt8} {rest : List UInt8} {flaw : Utf8.Flaw} {n : Nat}
    (hl : bytes.length ≤ pieceSize) (h : decodePiece 0 bytes = .ok (t, c :: rest))
    (hx : Utf8.first c rest = .error (flaw, n)) :
    readPieces {} bytes =
      { text := (Progress.add {} bytes.length t (c :: rest)).2, flaw := some ⟨flaw, 0, n, c⟩ } := by
  have hend : ∀ p : Progress, p.tail = c :: rest →
      readPieces p [] = { text := [], flaw := some ⟨flaw, 0, n, c⟩ } := by
    intro p hp
    simp only [readPieces, hp, hx]
  cases bytes with
  | nil => simp [decodePiece] at h
  | cons d more =>
    rw [readPieces]
    simp only [List.take_of_length_le (nextSize_ge hl), List.drop_of_length_le (nextSize_ge hl),
      List.nil_append, h]
    rw [hend _ rfl, List.append_nil]

/-- A short file that is not UTF-8 is read up to a flaw. -/
theorem exists_flaw_readText (hl : bytes.length ≤ pieceSize) (h : Utf8.decode bytes = .error b) :
    ∃ flaw, (readText bytes).flaw = some flaw ∧ (readText bytes).text.length < pieceSize := by
  have hpieces : ∃ flaw, (readPieces {} bytes).flaw = some flaw ∧
      (readPieces {} bytes).text.length < pieceSize := by
    rcases decodePiece_of_decodeFrom h with hp | ⟨t, c, rest, ⟨flaw, n⟩, hp, hx, ht⟩
    · rw [readPieces_of_error hl hp]
      exact ⟨b, rfl, Nat.zero_lt_succ _⟩
    · have hadd := length_add_le bytes.length t (c :: rest)
      rw [readPieces_of_ok hl hp hx]
      exact ⟨_, rfl, Nat.lt_of_le_of_lt hadd (Nat.lt_of_lt_of_le ht hl)⟩
  obtain ⟨flaw, hf, ht⟩ := hpieces
  refine ⟨flaw, ?_⟩
  unfold readText
  simp only [hf, Option.isSome_some, if_true, true_and, List.length_take]
  omega

end Files
end DfaTable
