/-!
# DfaTable.Text

Texts are lists of characters. This module cuts them at separators (`splitP`, `split`) and
joins them again (`join`). Main statements: `split_ne_nil` (a text always has a first piece),
`join_split` (joining the pieces gives the text back) and `split_join` (pieces without the
separator survive joining).
-/

namespace DfaTable

/-- A text: its characters, each a Unicode scalar value, in order. -/
abbrev Text := List Char

namespace Text

/-- The pieces between the elements that satisfy `p`; never empty. -/
def splitP {α : Type} (p : α → Bool) : List α → List (List α)
  | [] => [[]]
  | c :: rest =>
    if p c then [] :: splitP p rest
    else
      match splitP p rest with
      | [] => [[c]]
      | piece :: more => (c :: piece) :: more

/-- The pieces between the occurrences of `sep`. -/
def split (sep : Char) (t : Text) : List Text := splitP (· == sep) t

/-- The texts one after the other, with `sep` between neighbours. -/
def join (sep : Text) : List Text → Text
  | [] => []
  | [t] => t
  | t :: u :: rest => t ++ sep ++ join sep (u :: rest)

/-- Cuts at the first occurrence of `sep`, which is in neither part. -/
def cutAt (sep : Char) (t : Text) : Option (Text × Text) :=
  match t.dropWhile (· != sep) with
  | [] => none
  | _ :: rest => some (t.takeWhile (· != sep), rest)

/-- Cuts at the first occurrence of the text `mark`, which is in neither part. -/
def cutAround (mark : Text) : Text → Option (Text × Text)
  | [] => none
  | c :: rest =>
    match mark.isPrefixOf? (c :: rest) with
    | some after => some ([], after)
    | none => (cutAround mark rest).map fun (before, after) => (c :: before, after)

/-- The text, with `fill` added on the right up to the given width. -/
def padRight (fill : Char) (width : Nat) (t : Text) : Text :=
  t ++ List.replicate (width - t.length) fill

/-- The text without its last characters that satisfy `p`. -/
def trimEnd (p : Char → Bool) (t : Text) : Text := (t.reverse.dropWhile p).reverse

/-- The text without its first and last characters that satisfy `p`. -/
def trim (p : Char → Bool) (t : Text) : Text := trimEnd p (t.dropWhile p)

/-- Upper-case ASCII letters become lower-case ones; every other character stays. -/
def lower (t : Text) : Text := t.map Char.toLower

theorem splitP_ne_nil (p : Char → Bool) (t : Text) : splitP p t ≠ [] := by
  cases t with
  | nil => simp [splitP]
  | cons c rest =>
    simp only [splitP]
    split
    · simp
    · split <;> simp

theorem split_ne_nil (sep : Char) (t : Text) : split sep t ≠ [] := splitP_ne_nil _ t

theorem splitP_cons_pos {p : Char → Bool} {c : Char} (h : p c = true) (rest : Text) :
    splitP p (c :: rest) = [] :: splitP p rest := by
  simp [splitP, h]

theorem splitP_cons_neg {p : Char → Bool} {c : Char} (h : p c = false) {rest piece : Text}
    {more : List Text} (hs : splitP p rest = piece :: more) :
    splitP p (c :: rest) = (c :: piece) :: more := by
  simp [splitP, h, hs]

/-- A text without separators is its own only piece. -/
theorem splitP_of_all_neg {p : Char → Bool} {t : Text} (h : ∀ c ∈ t, p c = false) :
    splitP p t = [t] := by
  induction t with
  | nil => rfl
  | cons c rest ih =>
    have hr := ih fun d hd => h d (List.mem_cons_of_mem _ hd)
    exact splitP_cons_neg (h c (List.mem_cons_self ..)) hr

/-- The first separator ends the first piece. -/
theorem splitP_append_cons {p : Char → Bool} {t : Text} (h : ∀ c ∈ t, p c = false)
    {s : Char} (hs : p s = true) (rest : Text) :
    splitP p (t ++ s :: rest) = t :: splitP p rest := by
  induction t with
  | nil => exact splitP_cons_pos hs rest
  | cons c t ih =>
    have hr := ih fun d hd => h d (List.mem_cons_of_mem _ hd)
    exact splitP_cons_neg (h c (List.mem_cons_self ..)) hr

/-- No piece holds a separator. -/
theorem neg_of_mem_splitP {p : Char → Bool} {t piece : Text} (h : piece ∈ splitP p t) :
    ∀ c ∈ piece, p c = false := by
  induction t generalizing piece with
  | nil =>
    simp [splitP] at h
    simp [h]
  | cons c rest ih =>
    cases hc : p c with
    | true =>
      rw [splitP_cons_pos hc] at h
      rcases List.mem_cons.1 h with rfl | h
      · simp
      · exact ih h
    | false =>
      cases hs : splitP p rest with
      | nil => exact absurd hs (splitP_ne_nil p rest)
      | cons first more =>
        rw [splitP_cons_neg hc hs] at h
        rw [hs] at ih
        rcases List.mem_cons.1 h with rfl | h
        · intro d hd
          rcases List.mem_cons.1 hd with rfl | hd
          · exact hc
          · exact ih (List.mem_cons_self ..) d hd
        · exact ih (List.mem_cons_of_mem _ h)

@[simp] theorem join_nil (sep : Text) : join sep [] = [] := rfl

@[simp] theorem join_singleton (sep t : Text) : join sep [t] = t := rfl

theorem join_cons_cons (sep t u : Text) (rest : List Text) :
    join sep (t :: u :: rest) = t ++ sep ++ join sep (u :: rest) := rfl

/-- Joining the pieces with the separator gives the text back. -/
theorem join_split (sep : Char) (t : Text) : join [sep] (split sep t) = t := by
  induction t with
  | nil => rfl
  | cons c rest ih =>
    unfold split at ih ⊢
    cases hs : splitP (· == sep) rest with
    | nil => exact absurd hs (splitP_ne_nil _ rest)
    | cons first more =>
      cases hc : c == sep with
      | true =>
        rw [splitP_cons_pos (by simpa using hc), hs, join_cons_cons, ← hs, ih]
        simp [eq_of_beq hc]
      | false =>
        rw [splitP_cons_neg (by simpa using hc) hs]
        rw [hs] at ih
        cases more with
        | nil => simpa using ih
        | cons second others =>
          rw [join_cons_cons] at ih ⊢
          simp [← ih]

/-- Pieces without the separator are found again in what joining them writes. -/
theorem split_join {sep : Char} {pieces : List Text} (hne : pieces ≠ [])
    (h : ∀ piece ∈ pieces, sep ∉ piece) : split sep (join [sep] pieces) = pieces := by
  have free : ∀ piece ∈ pieces, ∀ c ∈ piece, (c == sep) = false := by
    intro piece hp c hc
    refine Bool.eq_false_iff.2 fun he => h piece hp ?_
    rw [← eq_of_beq he]
    exact hc
  clear h
  induction pieces with
  | nil => exact absurd rfl hne
  | cons t rest ih =>
    cases rest with
    | nil => exact splitP_of_all_neg (free t (List.mem_cons_self ..))
    | cons u more =>
      have ht := free t (List.mem_cons_self ..)
      have hr := ih (by simp) fun piece hp => free piece (List.mem_cons_of_mem _ hp)
      unfold split at hr ⊢
      rw [join_cons_cons, List.append_assoc, List.singleton_append,
        splitP_append_cons ht (by simp), hr]

end Text
end DfaTable
