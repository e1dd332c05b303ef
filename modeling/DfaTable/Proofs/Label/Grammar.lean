import DfaTable.Label.Codes
import DfaTable.Proofs.Text.Pieces

/-!
# DfaTable.Proofs.Label.Grammar

What labels accept, said by their form alone: `Accepts` has one rule for each form, the rules do
not overlap, and none of them cuts a label up or depends on the order in which forms are tried.

* `exclusions?_eq_some_iff`, `bounds?_eq_some_iff`: a clause has exclusions and a range has bounds
  for exactly one form of the label.
* `mem_codes_of_accepts` and `accepts_of_mem_codes`: the codes of a label are the accepted ones.
* `pairwise_codes`: they come in ascending order, so none comes twice.
-/

namespace DfaTable
namespace Label

open Text

/-- The code that an escape stands for. -/
inductive EscapeMeans : Text → Int → Prop where
  | backslash (t : Text) : EscapeMeans ('\\' :: '\\' :: t) 92
  | lineFeed (t : Text) : EscapeMeans ('\\' :: 'n' :: t) 10
  | tab (t : Text) : EscapeMeans ('\\' :: 't' :: t) 9
  | carriageReturn (t : Text) : EscapeMeans ('\\' :: 'r' :: t) 13
  | bar : EscapeMeans ['\\', 'v', 'l', 'n'] 124
  | letterV {t : Text} : t ≠ ['l', 'n'] → EscapeMeans ('\\' :: 'v' :: t) 118
  | space : EscapeMeans ['\\', 'b', 's'] 32
  | letterB {t : Text} : t ≠ ['s'] → EscapeMeans ('\\' :: 'b' :: t) 98
  | unknown {c : Char} (t : Text) :
      c ∉ ['\\', 'n', 't', 'r', 'v', 'b'] → EscapeMeans ('\\' :: c :: t) 0

/-- The code that a piece of an `any but` list names. -/
inductive PieceNames : Text → Int → Prop where
  | literal (c : Char) : PieceNames [c] c.toNat
  | escape {piece : Text} {code : Int} : EscapeMeans piece code → PieceNames piece code

/-- The form of an `any but` clause with a list: behind `any`, with letters that may be glued to
it, come `but` and the list, and whatever follows the list stands behind a space. -/
def IsClause (label list : Text) : Prop :=
  ∃ glued t, ' ' ∉ glued ∧ ' ' ∉ list ∧ IsTail ' ' t ∧
    label = anyWord ++ glued ++ ' ' :: butWord ++ ' ' :: list ++ t

/-- The codes that a label accepts. -/
inductive Accepts : Text → Int → Prop where
  | literal (c : Char) : Accepts [c] c.toNat
  | escape {label : Text} {code : Int} : EscapeMeans label code → Accepts label code
  | endOfInput : Accepts endOfInputWord (-1)
  | any {code : Int} : 33 ≤ code → code ≤ 126 → Accepts anyWord code
  | anyBut {label list : Text} {code : Int} :
      IsClause label list → 33 ≤ code → code ≤ 126 →
      (∀ piece, IsPiece '|' piece list → ¬ PieceNames piece code) → Accepts label code
  | range {first last : Char} {code : Int} :
      first ≠ '~' → last ≠ '~' → first ≠ '\\' → (first.toNat : Int) ≤ code →
      code ≤ (last.toNat : Int) → Accepts [first, '~', last] code

/-! ## The parts of a label -/

theorem exclusions?_of_form {first list t : Text} (hf : ' ' ∉ first) (hl : ' ' ∉ list)
    (ht : IsTail ' ' t) :
    exclusions? (first ++ ' ' :: butWord ++ ' ' :: list ++ t) = some (split '|' list) := by
  have hb : ' ' ∉ butWord := by decide
  have hs : ∃ more, split ' ' (list ++ t) = list :: more := by
    rcases ht with rfl | ⟨u, rfl⟩
    · exact ⟨[], by simp [split_of_notMem hl]⟩
    · exact ⟨_, split_cons_of_notMem hl u⟩
  obtain ⟨more, hs⟩ := hs
  simp [exclusions?, split_cons_of_notMem hf, split_cons_of_notMem hb, hs]

/-- The words between single spaces of a label with exclusions. -/
theorem form_of_exclusions? {label : Text} {pieces : List Text}
    (h : exclusions? label = some pieces) :
    ∃ first list t, ' ' ∉ first ∧ ' ' ∉ list ∧ IsTail ' ' t ∧
      label = first ++ ' ' :: butWord ++ ' ' :: list ++ t ∧ pieces = split '|' list := by
  unfold exclusions? at h
  split at h
  · rename_i first second third more hs
    split at h
    · rename_i hb
      subst hb
      cases h
      have hf : ' ' ∉ first := notMem_of_mem_split (by rw [hs]; simp)
      have hl : ' ' ∉ third := notMem_of_mem_split (by rw [hs]; simp)
      obtain ⟨t, ht, hj⟩ := isTail_join ' ' more
      refine ⟨first, third, t, hf, hl, ht, ?_, rfl⟩
      rw [← join_split ' ' label, hs, join_cons_cons, join_cons_cons, hj]
      simp
    · cases h
  · cases h

theorem exclusions?_eq_some_iff {label : Text} {pieces : List Text} :
    exclusions? label = some pieces ↔
      ∃ first list t, ' ' ∉ first ∧ ' ' ∉ list ∧ IsTail ' ' t ∧
        label = first ++ ' ' :: butWord ++ ' ' :: list ++ t ∧ pieces = split '|' list := by
  constructor
  · exact form_of_exclusions?
  · rintro ⟨first, list, t, hf, hl, ht, rfl, rfl⟩
    exact exclusions?_of_form hf hl ht

theorem bounds?_eq_some_iff {label : Text} {texts : List Text} :
    bounds? label = some texts ↔
      ∃ a b, a ≠ '~' ∧ b ≠ '~' ∧ label = [a, '~', b] ∧ texts = [[a], [b]] := by
  constructor
  · intro h
    unfold bounds? at h
    split at h
    · rename_i a b hs
      cases h
      have ha : '~' ∉ [a] := notMem_of_mem_split (by rw [hs]; simp)
      have hb : '~' ∉ [b] := notMem_of_mem_split (by rw [hs]; simp)
      refine ⟨a, b, fun h => ha (by simp [h]), fun h => hb (by simp [h]), ?_, rfl⟩
      rw [← join_split '~' label, hs]
      rfl
    · cases h
  · rintro ⟨a, b, ha, hb, rfl, rfl⟩
    have hf : '~' ∉ [a] := by simpa using Ne.symm ha
    have hl : '~' ∉ [b] := by simpa using Ne.symm hb
    have hs : split '~' ([a] ++ '~' :: [b]) = [[a], [b]] := by
      rw [split_cons_of_notMem hf, split_of_notMem hl]
    have he : [a, '~', b] = [a] ++ '~' :: [b] := rfl
    rw [bounds?, he, hs]

/-! ## The codes of each form -/

theorem expand_of_codes? {label : Text} {found : List Int}
    (h : (classify label).codes? = .ok found) :
    expand label = { label, shape := (classify label).shape, codes := found } := by
  refine expand_eq ?_
  rw [Classified.expand?, h, label_classify]
  rfl

theorem codes_eq {label : Text} {found : List Int}
    (h : (classify label).codes? = .ok found) : (expand label).codes = found := by
  rw [expand_of_codes? h]

theorem label_expand (label : Text) : (expand label).label = label := by
  obtain ⟨found, h⟩ := codes?_isOk (wellFormed_classify label)
  rw [expand_of_codes? h]

theorem shape_expand (label : Text) : (expand label).shape = (classify label).shape := by
  obtain ⟨found, h⟩ := codes?_isOk (wellFormed_classify label)
  rw [expand_of_codes? h]

@[simp] theorem codes_nil : (expand []).codes = [] := codes_eq rfl

@[simp] theorem codes_singleton (c : Char) : (expand [c]).codes = [(c.toNat : Int)] := by
  apply codes_eq
  simp [classify, Classified.codes?, codeOf, Except.map]

theorem codes_escape (selector : Char) (rest : Text) :
    (expand ('\\' :: selector :: rest)).codes =
      [escapeCode ('\\' :: selector :: rest) selector] := by
  apply codes_eq
  simp [classify, isEscape, Classified.codes?, decodeEscape, Except.map]

theorem codes_endOfInput : (expand endOfInputWord).codes = [-1] := codes_eq rfl

theorem codes_any : (expand anyWord).codes = visible := codes_eq rfl

/-- Every longer label that begins with `any` is a clause, if maybe a malformed one. -/
theorem classify_any_append {rest : Text} (h : rest ≠ []) :
    classify (anyWord ++ rest) =
      { label := anyWord ++ rest, shape := .anyBut,
        exclusions := exclusions? (anyWord ++ rest) } := by
  simp [classify, isEscape, endOfInputWord, anyWord, h]

theorem codes_any_append {rest : Text} (h : rest ≠ []) :
    (expand (anyWord ++ rest)).codes = anyButCodes (exclusions? (anyWord ++ rest)) := by
  apply codes_eq
  rw [classify_any_append h]
  rfl

/-- A label of two characters or more that no earlier form claims. -/
structure IsPlain (label : Text) : Prop where
  two_le_length : 2 ≤ label.length
  isEscape_eq : isEscape label = false
  ne_endOfInput : label ≠ endOfInputWord
  not_any : anyWord.isPrefixOf label = false

theorem IsPlain.ne_backslash {label : Text} (h : IsPlain label) {first second : Char} {rest : Text}
    (hl : label = first :: second :: rest) : first ≠ '\\' := by
  rintro rfl
  have he := h.isEscape_eq
  rw [hl] at he
  cases he

theorem IsPlain.classify_eq {label : Text} (h : IsPlain label) :
    classify label =
      if label.contains '~' then { label, shape := .range, bounds := bounds? label }
      else { label, shape := .unrecognized } := by
  have hl := h.two_le_length
  have hn : label ≠ [] := by rintro rfl; simp at hl
  have ha : label ≠ anyWord := by
    rintro rfl
    exact absurd h.not_any (by decide)
  unfold classify
  rw [if_neg hn, if_neg (by omega), if_neg (by simp [h.isEscape_eq]), if_neg h.ne_endOfInput,
    if_neg ha, if_neg (by simp [h.not_any])]

theorem isEscape_cons_of_ne {first : Char} (h : first ≠ '\\') (rest : Text) :
    isEscape (first :: rest) = false := by
  unfold isEscape
  split
  · rename_i he
    cases he
    exact absurd rfl h
  · rfl

theorem isPlain_range {first last : Char} (hb : first ≠ '\\') : IsPlain [first, '~', last] :=
  ⟨by simp, isEscape_cons_of_ne hb _, by simp [endOfInputWord], by simp [anyWord, List.isPrefixOf]⟩

theorem rangeCodes_single (a b : Char) :
    rangeCodes (some [[a], [b]]) = .ok (between a.toNat b.toNat) := rfl

theorem codes_range {first last : Char} (hf : first ≠ '~') (hl : last ≠ '~') (hb : first ≠ '\\') :
    (expand [first, '~', last]).codes = between first.toNat last.toNat := by
  have hp : IsPlain [first, '~', last] := isPlain_range hb
  have hs : bounds? [first, '~', last] = some [[first], [last]] :=
    bounds?_eq_some_iff.2 ⟨first, last, hf, hl, rfl, rfl⟩
  apply codes_eq
  rw [hp.classify_eq, if_pos (by simp)]
  simp only [Classified.codes?, hs]
  exact rangeCodes_single first last

/-- A label that no form claims accepts nothing. -/
theorem IsPlain.codes_eq_nil {label : Text} (h : IsPlain label) (hn : bounds? label = none) :
    (expand label).codes = [] := by
  apply codes_eq
  rw [h.classify_eq]
  split
  · simp [Classified.codes?, hn, rangeCodes]
  · rfl

/-- The forms of labels, of which all but the last one stand for a rule each. -/
theorem forms (label : Text) :
    label = [] ∨ (∃ c, label = [c]) ∨ (∃ selector rest, label = '\\' :: selector :: rest) ∨
      label = endOfInputWord ∨ (∃ rest, label = anyWord ++ rest) ∨ IsPlain label := by
  match label with
  | [] => exact .inl rfl
  | [c] => exact .inr (.inl ⟨c, rfl⟩)
  | first :: second :: rest =>
    refine .inr (.inr ?_)
    by_cases hb : first = '\\'
    · exact .inl ⟨second, rest, by rw [hb]⟩
    by_cases he : first :: second :: rest = endOfInputWord
    · exact .inr (.inl he)
    by_cases ha : anyWord <+: first :: second :: rest
    · obtain ⟨more, hm⟩ := ha
      exact .inr (.inr (.inl ⟨more, hm.symm⟩))
    · refine .inr (.inr (.inr ⟨by simp, isEscape_cons_of_ne hb _, he, ?_⟩))
      rw [← Bool.not_eq_true, List.isPrefixOf_iff_prefix]
      exact ha

/-! ## Sets of codes -/

@[simp] theorem mem_visible {code : Int} : code ∈ visible ↔ 33 ≤ code ∧ code ≤ 126 := by
  simp only [visible, List.mem_map, List.mem_range'_1]
  constructor
  · rintro ⟨n, ⟨h1, h2⟩, rfl⟩
    exact ⟨by simp; omega, by simp; omega⟩
  · rintro ⟨h1, h2⟩
    exact ⟨code.toNat, ⟨by omega, by omega⟩, by simp; omega⟩

@[simp] theorem mem_between {first last code : Int} :
    code ∈ between first last ↔ first ≤ code ∧ code ≤ last := by
  simp only [between, List.mem_map, List.mem_range]
  constructor
  · rintro ⟨k, hk, rfl⟩
    omega
  · rintro ⟨h1, h2⟩
    exact ⟨(code - first).toNat, by omega, by omega⟩

theorem pairwise_visible : visible.Pairwise (· < ·) := by
  have h : (List.range' 33 94).Pairwise (· < ·) := List.pairwise_lt_range'
  exact h.map _ fun a b hab => Int.ofNat_lt.2 hab

theorem pairwise_between (first last : Int) : (between first last).Pairwise (· < ·) := by
  have h : (List.range (last + 1 - first).toNat).Pairwise (· < ·) := List.pairwise_lt_range
  exact h.map _ fun a b hab => by omega

theorem pairwise_anyButCodes (pieces : Option (List Text)) :
    (anyButCodes pieces).Pairwise (· < ·) := by
  cases pieces with
  | none => exact .nil
  | some pieces =>
    rw [anyButCodes]
    exact pairwise_visible.filter _

theorem EscapeMeans.form {text : Text} {code : Int} (h : EscapeMeans text code) :
    ∃ selector rest, text = '\\' :: selector :: rest := by
  cases h <;> exact ⟨_, _, rfl⟩

theorem escapeCode_eq_iff {selector : Char} {rest : Text} {code : Int} :
    escapeCode ('\\' :: selector :: rest) selector = code ↔
      EscapeMeans ('\\' :: selector :: rest) code := by
  constructor
  · rintro rfl
    unfold escapeCode
    split
    · subst_vars; exact .backslash rest
    split
    · subst_vars; exact .lineFeed rest
    split
    · subst_vars; exact .tab rest
    split
    · subst_vars; exact .carriageReturn rest
    split
    · subst_vars
      split
      · rename_i h
        cases h
        exact .bar
      · rename_i h
        exact .letterV fun he => h (by rw [he])
    split
    · subst_vars
      split
      · rename_i h
        cases h
        exact .space
      · rename_i h
        exact .letterB fun he => h (by rw [he])
    · refine .unknown rest ?_
      simp [*]
  · intro h
    cases h with
    | letterV h => simp [escapeCode, h]
    | letterB h => simp [escapeCode, h]
    | unknown _ h =>
      simp only [List.mem_cons, List.not_mem_nil, not_or] at h
      simp [escapeCode, h]
    | _ => rfl

theorem exclusionCode?_eq_some_iff {piece : Text} {code : Int} :
    exclusionCode? piece = some code ↔ PieceNames piece code := by
  constructor
  · intro h
    unfold exclusionCode? at h
    split at h
    · cases h
      exact .literal _
    · exact .escape (escapeCode_eq_iff.1 (Option.some.inj h))
    · cases h
  · intro h
    cases h with
    | literal c => rfl
    | escape h =>
      obtain ⟨selector, rest, rfl⟩ := h.form
      exact congrArg some (escapeCode_eq_iff.2 h)

theorem mem_anyButCodes {list : Text} {code : Int} :
    code ∈ anyButCodes (some (split '|' list)) ↔
      (33 ≤ code ∧ code ≤ 126) ∧ ∀ piece, IsPiece '|' piece list → ¬ PieceNames piece code := by
  have hx : code ∈ (split '|' list).filterMap exclusionCode? ↔
      ∃ piece, IsPiece '|' piece list ∧ PieceNames piece code := by
    simp only [List.mem_filterMap, mem_split_iff, exclusionCode?_eq_some_iff]
  simp only [anyButCodes, List.mem_filter, mem_visible, Bool.not_eq_true']
  rw [← Bool.not_eq_true, List.contains_iff_mem, hx, not_exists]
  simp only [not_and]

/-! ## Labels and what they accept -/

/-- A clause begins with `any` and is longer than this word. -/
theorem IsClause.form {label list : Text} (h : IsClause label list) :
    ∃ rest, rest ≠ [] ∧ label = anyWord ++ rest := by
  obtain ⟨glued, t, -, -, -, rfl⟩ := h
  exact ⟨glued ++ ' ' :: butWord ++ ' ' :: list ++ t, by simp, by simp⟩

theorem IsClause.exclusions?_eq {label list : Text} (h : IsClause label list) :
    exclusions? label = some (split '|' list) := by
  obtain ⟨glued, t, hg, hl, ht, rfl⟩ := h
  exact exclusions?_of_form (by simp [anyWord, hg]) hl ht

theorem codes_of_isClause {label list : Text} (h : IsClause label list) :
    (expand label).codes = anyButCodes (some (split '|' list)) := by
  have hx := h.exclusions?_eq
  obtain ⟨rest, hr, rfl⟩ := h.form
  rw [codes_any_append hr, hx]

theorem mem_codes_of_accepts {label : Text} {code : Int} (h : Accepts label code) :
    code ∈ (expand label).codes := by
  cases h with
  | literal c => simp
  | escape h =>
    obtain ⟨selector, rest, rfl⟩ := h.form
    rw [codes_escape, escapeCode_eq_iff.2 h]
    exact List.mem_singleton_self _
  | endOfInput => simp [codes_endOfInput]
  | any h1 h2 => simp [codes_any, h1, h2]
  | anyBut hc h1 h2 hp =>
    rw [codes_of_isClause hc]
    exact mem_anyButCodes.2 ⟨⟨h1, h2⟩, hp⟩
  | range hf hl hb h1 h2 =>
    rw [codes_range hf hl hb]
    exact mem_between.2 ⟨h1, h2⟩

/-- A clause with exclusions is of the form of one. -/
theorem isClause_of_exclusions? {rest : Text} {pieces : List Text}
    (h : exclusions? (anyWord ++ rest) = some pieces) :
    ∃ list, IsClause (anyWord ++ rest) list ∧ pieces = split '|' list := by
  obtain ⟨first, list, t, hf, hl, ht, he, rfl⟩ := exclusions?_eq_some_iff.1 h
  refine ⟨list, ?_, rfl⟩
  have hg : ∃ glued, first = anyWord ++ glued := by
    match first, he with
    | [], he => simp [anyWord] at he
    | [_], he => simp [anyWord] at he
    | [_, _], he => simp [anyWord] at he
    | a :: b :: c :: glued, he =>
      simp only [anyWord, List.cons_append, List.nil_append, List.cons.injEq] at he
      obtain ⟨rfl, rfl, rfl, -⟩ := he
      exact ⟨glued, rfl⟩
  obtain ⟨glued, rfl⟩ := hg
  exact ⟨glued, t, fun hm => hf (List.mem_append_right _ hm), hl, ht, he⟩

theorem accepts_of_mem_any {rest : Text} {code : Int}
    (h : code ∈ (expand (anyWord ++ rest)).codes) :
    Accepts (anyWord ++ rest) code := by
  by_cases hr : rest = []
  · subst hr
    rw [List.append_nil, codes_any, mem_visible] at h
    rw [List.append_nil]
    exact .any h.1 h.2
  · rw [codes_any_append hr] at h
    cases hx : exclusions? (anyWord ++ rest) with
    | none => simp [hx, anyButCodes] at h
    | some pieces =>
      obtain ⟨list, hc, rfl⟩ := isClause_of_exclusions? hx
      rw [hx, mem_anyButCodes] at h
      exact .anyBut hc h.1.1 h.1.2 h.2

theorem IsPlain.accepts_of_mem {label : Text} (hp : IsPlain label) {code : Int}
    (h : code ∈ (expand label).codes) : Accepts label code := by
  cases hx : bounds? label with
  | none => simp [hp.codes_eq_nil hx] at h
  | some texts =>
    obtain ⟨first, last, hf, hl, rfl, -⟩ := bounds?_eq_some_iff.1 hx
    have hb := hp.ne_backslash rfl
    rw [codes_range hf hl hb, mem_between] at h
    exact .range hf hl hb h.1 h.2

theorem accepts_of_mem_codes {label : Text} {code : Int} (h : code ∈ (expand label).codes) :
    Accepts label code := by
  rcases forms label with rfl | ⟨c, rfl⟩ | ⟨selector, rest, rfl⟩ | rfl | ⟨rest, rfl⟩ | hp
  · simp at h
  · rw [codes_singleton, List.mem_singleton] at h
    rw [h]
    exact .literal c
  · rw [codes_escape, List.mem_singleton] at h
    exact .escape (escapeCode_eq_iff.1 h.symm)
  · rw [codes_endOfInput, List.mem_singleton] at h
    rw [h]
    exact .endOfInput
  · exact accepts_of_mem_any h
  · exact hp.accepts_of_mem h

theorem pairwise_codes (label : Text) : (expand label).codes.Pairwise (· < ·) := by
  rcases forms label with rfl | ⟨c, rfl⟩ | ⟨selector, rest, rfl⟩ | rfl | ⟨rest, rfl⟩ | hp
  · simp
  · simp
  · simp [codes_escape]
  · simp [codes_endOfInput]
  · by_cases hr : rest = []
    · rw [hr, List.append_nil, codes_any]
      exact pairwise_visible
    · rw [codes_any_append hr]
      exact pairwise_anyButCodes _
  · cases hx : bounds? label with
    | none => simp [hp.codes_eq_nil hx]
    | some texts =>
      obtain ⟨first, last, hf, hl, rfl, -⟩ := bounds?_eq_some_iff.1 hx
      rw [codes_range hf hl (hp.ne_backslash rfl)]
      exact pairwise_between ..

/-- The codes of a label are the ones that it accepts by its form, each once and in ascending
order. -/
theorem codes_iff_accepts (label : Text) :
    (expand label).codes.Pairwise (· < ·) ∧
      ∀ code, code ∈ (expand label).codes ↔ Accepts label code :=
  ⟨pairwise_codes label, fun _ => ⟨accepts_of_mem_codes, mem_codes_of_accepts⟩⟩

end Label
end DfaTable
