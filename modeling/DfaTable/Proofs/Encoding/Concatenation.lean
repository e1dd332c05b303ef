import DfaTable.Encoding
import Mathlib.Data.List.Forall2

/-!
# DfaTable.Proofs.Encoding.Concatenation

Texts that are written one after the other, against the one text that they make up.

* `Writes`: the texts of a run of writes, their bytes and the encoder behind them. `exists_writes`:
  a run takes in all texts, or ends before the first one that cannot be written.
* `Writes.write_flatten`: the bytes are those of the whole text written at once, unless every text
  is encoded on its own.
* `whole?_flatten`, `whole?_flatten_of_keepsNothing`: a file lacks what an encoder gives only at the
  end of a text, if there is any such thing.
* `Writes.makesUp`: all that holds of a new file of texts.
-/

namespace DfaTable.Encoding

variable {e : Encoding} {s s' s'' : State} {f g h : Stream} {t u : Text} {a b bytes : List UInt8}
  {x : Unwritable}

/-! ## One text behind another -/

/-- A character is taken in as it is where nothing is held but for pairs. -/
theorem step_eq_ok_iff {c : Char} {r : List UInt8 × State} (hd : e ≠ .domain) :
    e.step s c = .ok r ↔ e.takeBehind? s c = some r := by
  have hstep : e.step s c = (e.takeBehind? s c).elim (.error .character) .ok := by
    unfold step
    cases e with
    | domain => exact absurd rfl hd
    | _ => dsimp only; cases takeBehind? _ s c <;> rfl
  rw [hstep]
  cases e.takeBehind? s c <;> simp

theorem encodeFrom_cons_eq_ok_iff {n : Nat} {c : Char} :
    e.encodeFrom n s (c :: t) = .ok (bytes, s'') ↔ ∃ a s' b, e.step s c = .ok (a, s') ∧
      e.encodeFrom (n + 1) s' t = .ok (b, s'') ∧ bytes = a ++ b := by
  rw [encodeFrom]
  cases hc : e.step s c with
  | error flaw => cases flaw <;> simp
  | ok r =>
    obtain ⟨a, s'⟩ := r
    dsimp only
    cases ht : e.encodeFrom (n + 1) s' t with
    | error u => simp [Except.map, ht]
    | ok r =>
      obtain ⟨b, s⟩ := r
      simp only [Except.map, Except.ok.injEq, Prod.mk.injEq]
      constructor
      · rintro ⟨rfl, rfl⟩
        exact ⟨a, s', b, ⟨rfl, rfl⟩, ht, rfl⟩
      · rintro ⟨_, _, b', ⟨rfl, rfl⟩, ht', rfl⟩
        rw [ht] at ht'
        cases ht'
        exact ⟨rfl, rfl⟩

/-- Where a text stands has no part in its bytes. -/
theorem encodeFrom_position {m : Nat} (ht : e.encodeFrom m s t = .ok (bytes, s')) (n : Nat) :
    e.encodeFrom n s t = .ok (bytes, s') := by
  induction t generalizing m n s bytes with
  | nil => exact ht
  | cons c t ih =>
    obtain ⟨a, s₁, b, hc, hb, rfl⟩ := encodeFrom_cons_eq_ok_iff.1 ht
    exact encodeFrom_cons_eq_ok_iff.2 ⟨a, s₁, b, hc, ih hb (n + 1), rfl⟩

theorem encodeFrom_append {m n : Nat} (ht : e.encodeFrom m s t = .ok (a, s'))
    (hu : e.encodeFrom n s' u = .ok (b, s'')) :
    e.encodeFrom m s (t ++ u) = .ok (a ++ b, s'') := by
  induction t generalizing m s a with
  | nil =>
    cases ht
    exact encodeFrom_position hu m
  | cons c t ih =>
    obtain ⟨a₁, s₁, a₂, hc, ha, rfl⟩ := encodeFrom_cons_eq_ok_iff.1 ht
    rw [List.append_assoc]
    exact encodeFrom_cons_eq_ok_iff.2 ⟨a₁, s₁, a₂ ++ b, hc, ih ha, rfl⟩

/-- Whether an encoding writes every text on its own. -/
def isSeparate : Encoding → Bool
  | .utf7 | .punycode => true
  | _ => false

theorem encode_eq_encodeFrom (hs : e.isSeparate = false) (hu : e ≠ .undefined) (s : State)
    (t : Text) : e.encode s t = e.encodeFrom s.held.length s t := by
  cases e <;> first | rfl | contradiction

theorem ne_undefined_of_encode (ht : e.encode s t = .ok (bytes, s')) : e ≠ .undefined := by
  rintro rfl
  cases ht

theorem encode_append (hs : e.isSeparate = false) (ht : e.encode s t = .ok (a, s'))
    (hu : e.encode s' u = .ok (b, s'')) : e.encode s (t ++ u) = .ok (a ++ b, s'') := by
  have hne := ne_undefined_of_encode ht
  rw [encode_eq_encodeFrom hs hne] at ht hu ⊢
  exact encodeFrom_append ht hu

theorem write_eq_ok_iff :
    e.write f t = .ok (bytes, g) ↔ ∃ b s, e.encode f.state t = .ok (b, s) ∧
      bytes = (if f.isBeginning then e.mark else []) ++ b ∧ g = ⟨false, s⟩ := by
  rw [write]
  cases ht : e.encode f.state t with
  | error u => simp [Except.map]
  | ok r =>
    obtain ⟨b, s⟩ := r
    simp only [Except.map, Except.ok.injEq, Prod.mk.injEq]
    constructor
    · rintro ⟨rfl, rfl⟩
      exact ⟨b, s, ⟨rfl, rfl⟩, rfl, rfl⟩
    · rintro ⟨_, _, ⟨rfl, rfl⟩, rfl, rfl⟩
      exact ⟨rfl, rfl⟩

theorem write_append (hs : e.isSeparate = false) (ht : e.write f t = .ok (a, g))
    (hu : e.write g u = .ok (b, h)) : e.write f (t ++ u) = .ok (a ++ b, h) := by
  obtain ⟨a', s', ha, rfl, rfl⟩ := write_eq_ok_iff.1 ht
  obtain ⟨b', s'', hb, hbytes, rfl⟩ := write_eq_ok_iff.1 hu
  refine write_eq_ok_iff.2 ⟨a' ++ b', s'', encode_append hs ha hb, ?_, rfl⟩
  rw [hbytes]
  simp

/-! ## One text after the other -/

/-- Texts are written one after the other, which leads from one state of the encoder to another. -/
inductive Writes (e : Encoding) : Stream → List Text → List UInt8 → Stream → Prop where
  | nil {f : Stream} : Writes e f [] [] f
  | cons {f g h : Stream} {t : Text} {ts : List Text} {a b : List UInt8} :
      e.write f t = .ok (a, g) → Writes e g ts b h → Writes e f (t :: ts) (a ++ b) h

variable {texts before after : List Text}

theorem Writes.append (ha : e.Writes f before a g) (hb : e.Writes g after b h) :
    e.Writes f (before ++ after) (a ++ b) h := by
  induction ha with
  | nil => exact hb
  | cons ht _ ih =>
    rw [List.cons_append, List.append_assoc]
    exact .cons ht (ih hb)

/-- Either all of the texts are written, or there is a first one that cannot be. -/
theorem exists_writes (e : Encoding) (f : Stream) (texts : List Text) :
    (∃ bytes g, e.Writes f texts bytes g) ∨
    ∃ before t after bytes g x, texts = before ++ t :: after ∧ e.Writes f before bytes g ∧
      e.write g t = .error x := by
  induction texts generalizing f with
  | nil => exact .inl ⟨[], f, .nil⟩
  | cons t texts ih =>
    cases ht : e.write f t with
    | error x => exact .inr ⟨[], t, texts, [], f, x, rfl, .nil, ht⟩
    | ok r =>
      obtain ⟨a, g⟩ := r
      rcases ih g with ⟨b, h, hw⟩ | ⟨before, u, after, b, h, x, rfl, hw, hu⟩
      · exact .inl ⟨a ++ b, h, .cons ht hw⟩
      · exact .inr ⟨t :: before, u, after, a ++ b, h, x, rfl, .cons ht hw, hu⟩

theorem encodeAll_of_writes (hw : e.Writes f texts bytes g) :
    e.encodeAll f texts = (bytes, none) := by
  induction hw with
  | nil => rfl
  | cons ht _ ih => simp [encodeAll, ht, ih]

/-- What is written ends before the first text that cannot be. -/
theorem encodeAll_of_error (hw : e.Writes f before bytes g) (ht : e.write g t = .error x)
    (after : List Text) : e.encodeAll f (before ++ t :: after) = (bytes, some x) := by
  induction hw with
  | nil => simp [encodeAll, ht]
  | cons hc _ ih => simp [encodeAll, hc, ih ht]

/-- The bytes of texts are those of the whole text, written at once. -/
theorem Writes.write_flatten (hs : e.isSeparate = false) (hne : texts ≠ [])
    (hw : e.Writes f texts bytes g) : e.write f texts.flatten = .ok (bytes, g) := by
  induction hw with
  | nil => exact absurd rfl hne
  | cons ht hw ih =>
    cases hw with
    | nil => simpa using ht
    | cons _ _ => exact write_append hs ht (ih (List.cons_ne_nil _ _))

/-! ## The whole text -/

/-- The marks that lead the reader of the bytes back to ASCII. -/
def back (e : Encoding) (s : State) : List UInt8 :=
  match e with
  | .escaping _ =>
    (if s.isShifted then [0x0F] else []) ++
      if s.called = some .ascii then [] else Charset.ascii.escape ++ [Charset.ascii.mark]
  | .tilde => if s.isShifted then [0x7E, 0x7D] else []
  | _ => []

/-- What is written at the end of a text: what is held of it, and the marks that lead back. -/
def ending? (e : Encoding) (s : State) : Option (List UInt8) :=
  match s.held with
  | [] => some (e.back s)
  | c :: rest =>
    match e with
    | .domain => (Domain.written (c :: rest)).toOption.map asciiBytes
    | e => (e.put? { s with held := [] } c).map fun (bytes, s) => bytes ++ e.back s

/-- The bytes of a text by itself. -/
def whole? (e : Encoding) (t : Text) : Option (List UInt8) :=
  match e.write (.opened true) t with
  | .ok (bytes, g) => (e.ending? g.state).map (bytes ++ ·)
  | .error _ => none

example : whole? (.escaping .jp) ['、'] =
    some [0x1B, 0x24, 0x42, 0x21, 0x22, 0x1B, 0x28, 0x42] := by
  decide +kernel

/-- What a file lacks of the bytes of the whole text is the end. -/
theorem whole?_flatten (hs : e.isSeparate = false) (hne : texts ≠ [])
    (hw : e.Writes (.opened true) texts bytes g) :
    e.whole? texts.flatten = (e.ending? g.state).map (bytes ++ ·) := by
  rw [whole?, hw.write_flatten hs hne]

/-- Texts that are encoded on their own have their own bytes. -/
theorem Writes.exists_pieces (hs : e.isSeparate = true) (hw : e.Writes f texts bytes g) :
    ∃ pieces, List.Forall₂ (fun t b => e.whole? t = some b) texts pieces ∧
      bytes = pieces.flatten := by
  induction hw with
  | nil => exact ⟨[], .nil, rfl⟩
  | @cons f g h t ts a b ht hw ih =>
    obtain ⟨pieces, hp, rfl⟩ := ih
    refine ⟨a :: pieces, .cons ?_ hp, rfl⟩
    obtain ⟨a', s, ha, rfl, rfl⟩ := write_eq_ok_iff.1 ht
    have hmark : e.mark = [] := by cases e <;> first | rfl | contradiction
    cases e with
    | utf7 | punycode =>
      cases ha
      rw [hmark]
      simp [whole?, write, encode, Stream.opened, ending?, back, Except.map, hmark]
    | _ => contradiction

/-! ## Encodings without a memory -/

/-- Whether nothing of what was written has a part in what is written behind it. -/
def keepsNothing : Encoding → Bool
  | .utf7 | .punycode | .escaping _ | .tilde | .domain => false
  | .doubleByte d =>
    match d with
    | .big5hkscs | .eucJisx _ | .shiftJisx _ => false
    | _ => true
  | _ => true

theorem takeBehind?_of_keepsNothing (hk : e.keepsNothing = true) (hs : s.held = []) (c : Char) :
    e.takeBehind? s c = (e.charBytes? c).map (·, s) := by
  have hawaits : e.awaits c = false := by
    cases e with
    | doubleByte d => cases d <;> first | rfl | contradiction
    | escaping x => contradiction
    | _ => rfl
  rw [takeBehind?, hs, take?, hawaits]
  cases e with
  | escaping x => contradiction
  | tilde => contradiction
  | _ => rfl

theorem encodeFrom_of_keepsNothing {n : Nat} (hk : e.keepsNothing = true) (hs : s.held = [])
    (ht : e.encodeFrom n s t = .ok (bytes, s')) : s' = s := by
  induction t generalizing n bytes with
  | nil =>
    cases ht
    rfl
  | cons c t ih =>
    obtain ⟨a, s₁, b, hc, hb, rfl⟩ := encodeFrom_cons_eq_ok_iff.1 ht
    have hd : e ≠ .domain := by
      rintro rfl
      cases hk
    rw [step_eq_ok_iff hd, takeBehind?_of_keepsNothing hk hs, Option.map_eq_some_iff] at hc
    obtain ⟨_, -, hc⟩ := hc
    cases hc
    exact ih hb

theorem isSeparate_of_keepsNothing (hk : e.keepsNothing = true) : e.isSeparate = false := by
  cases e <;> first | rfl | contradiction

theorem Writes.state_eq (hk : e.keepsNothing = true) (hs : f.state.held = [])
    (hw : e.Writes f texts bytes g) : g.state = f.state := by
  induction hw with
  | nil => rfl
  | @cons f g h t ts a b ht hw ih =>
    obtain ⟨a', s, ha, rfl, rfl⟩ := write_eq_ok_iff.1 ht
    rw [encode_eq_encodeFrom (isSeparate_of_keepsNothing hk) (ne_undefined_of_encode ha)] at ha
    obtain rfl := encodeFrom_of_keepsNothing hk hs ha
    exact ih hs

/-- A file of texts is the file of the whole text. -/
theorem whole?_flatten_of_keepsNothing (hk : e.keepsNothing = true) (hne : texts ≠ [])
    (hw : e.Writes (.opened true) texts bytes g) : e.whole? texts.flatten = some bytes := by
  rw [whole?_flatten (isSeparate_of_keepsNothing hk) hne hw, hw.state_eq hk rfl]
  have hback : e.back {} = [] := by cases e <;> rfl
  simp [Stream.opened, ending?, hback]

/-! ## All of it -/

/-- How the bytes of texts that are written one after the other go with those of a text by itself. -/
structure MakesUp (e : Encoding) (texts : List Text) (bytes : List UInt8) (f : Stream) : Prop where
  /-- Without a text there is no mark either. -/
  nothing : texts = [] → bytes = []
  /-- What is missing from the bytes of the whole text is the end. -/
  whole : e.isSeparate = false → texts ≠ [] →
    e.whole? texts.flatten = (e.ending? f.state).map (bytes ++ ·)
  /-- Nothing is missing where nothing is kept. -/
  same : e.keepsNothing = true → texts ≠ [] → e.whole? texts.flatten = some bytes
  /-- Two encodings write every text on its own. -/
  separate : e.isSeparate = true → ∃ pieces,
    List.Forall₂ (fun t b => e.whole? t = some b) texts pieces ∧ bytes = pieces.flatten

theorem Writes.makesUp (hw : e.Writes (.opened true) texts bytes g) :
    e.MakesUp texts bytes g where
  nothing ht := by
    subst ht
    cases hw
    rfl
  whole hs ht := whole?_flatten hs ht hw
  same hk ht := whole?_flatten_of_keepsNothing hk ht hw
  separate hs := hw.exists_pieces hs

end DfaTable.Encoding
