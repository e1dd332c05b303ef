import DfaTable.Proofs.Encoding.Concatenation
import DfaTable.Proofs.Record.Cutting

/-!
# DfaTable.Proofs.Encoding.Ascii

The lines of records are of characters that every encoding has and writes one by one: letters,
digits, the hyphen, the space and the line feed. So writing a table never stops half way.

* `exists_writes_plain`: what becomes of plain texts in nearly every encoding: the bytes of their
  characters, behind the mark of a new file, or behind the marks that call ASCII at the end of an old
  one.
* `exists_writes_punycode`, `exists_writes_domain`: in one encoding every text gets a hyphen more,
  and in the other one nothing at all is written.
* `isPlain_spelledLines`: the lines of records are plain.
-/

namespace DfaTable

open Text

/-- A text of ASCII characters only. -/
def Text.IsAscii (t : Text) : Prop := ∀ c ∈ t, c.toNat < 128

namespace Encoding

/-! ## Plain characters -/

/-- The characters that every encoding has. -/
def plainChars : Text :=
  "\n -0123456789ABCDEFGHIJKLMNOPQRSTUVWXYZabcdefghijklmnopqrstuvwxyz".toList

/-- A text that every encoding can write. -/
def IsPlain (t : Text) : Prop := ∀ c ∈ t, c ∈ plainChars

/-- What is to be said of the plain characters is checked one by one. -/
theorem forall_plain {p : Char → Prop} [DecidablePred p] (h : plainChars.all (p ·) = true) :
    ∀ c ∈ plainChars, p c := by
  simpa using h

theorem toNat_of_plain : ∀ c ∈ plainChars, c.toNat < 123 ∧ c ≠ '\\' :=
  forall_plain (by decide +kernel)

theorem ne_of_plain {c d : Char} (hc : c ∈ plainChars) (hd : 123 ≤ d.toNat) : c ≠ d := by
  rintro rfl
  have hlt := (toNat_of_plain c hc).1
  omega

theorem isDirect_of_plain : ∀ c ∈ plainChars, isDirect c = true := forall_plain (by decide +kernel)

theorem not_isDot_of_plain : ∀ c ∈ plainChars, Domain.isDot c = false :=
  forall_plain (by decide +kernel)

/-- No plain character is the first of two that are written as one. -/
theorem awaits_of_plain : ∀ c ∈ plainChars,
    Japanese.awaits c = false ∧ DoubleByte.awaits .big5hkscs c = false :=
  forall_plain (by decide +kernel)

theorem isAscii_of_plain {d : DoubleByte} {c : Char} (hc : c ∈ plainChars) :
    d.isAscii c = true := by
  obtain ⟨hlt, hb⟩ := toNat_of_plain c hc
  have ht : c ≠ '~' := ne_of_plain hc (by decide)
  have hn : c.toNat < 128 := by omega
  cases d <;> simp [DoubleByte.isAscii, hn, hb, ht]

namespace Page

variable {p : Page} {c : Char} {b : UInt8}

/-- The byte of a character leads back to it. -/
theorem char?_of_byte? (h : p.byte? c = some b) : p.char? b = some c := by
  have hb := List.find?_some h
  exact beq_iff_eq.1 hb

theorem mem_allBytes (b : UInt8) : b ∈ allBytes :=
  List.mem_map.2 ⟨b.toNat, List.mem_range.2 b.toNat_lt, by simp⟩

theorem isSome_byte? (h : p.char? b = some c) : (p.byte? c).isSome = true := by
  rw [byte?, List.find?_isSome]
  exact ⟨b, List.mem_reverse.2 (mem_allBytes b), beq_iff_eq.2 h⟩

theorem isSome_byte?_of_mem (hc : c ∈ p.chars.take 256) (hne : c ≠ hole) :
    (p.byte? c).isSome = true := by
  obtain ⟨n, hn, hget⟩ := List.mem_iff_getElem.1 hc
  rw [List.length_take] at hn
  have hb : (UInt8.ofNat n).toNat = n := by
    simp only [UInt8.toNat_ofNat']
    omega
  refine isSome_byte? (b := UInt8.ofNat n) ?_
  rw [List.getElem_take] at hget
  rw [char?, charAt?, hb, List.getElem?_eq_getElem (by omega), hget]
  simp [hne]

/-- Most pages begin with ASCII. -/
theorem mem_take_of_low (hp : p.low = ascii) (hc : c.toNat < 128) : c ∈ p.chars.take 256 := by
  have hlen : ascii.length = 128 := by simp [ascii]
  rw [chars, hp, List.take_append, List.take_of_length_le (by omega)]
  refine List.mem_append_left _ (List.mem_map.2 ⟨c.toNat, List.mem_range.2 hc, ?_⟩)
  exact Char.ofNat_toNat c

theorem text_nil : text [] = [] := by
  simp [text]

theorem text_cons (row : String) (rows : List String) :
    text (row :: rows) = row.toList ++ text rows := by
  simp [text]

/-- The plain characters in the order of the pages that have letters before digits. -/
def letterFirst : Text :=
  "\n -abcdefghijklmnopqrstuvwxyzABCDEFGHIJKLMNOPQRSTUVWXYZ0123456789".toList

theorem mem_letterFirst : ∀ c ∈ plainChars, c ∈ letterFirst := forall_plain (by decide +kernel)

/-- A page that does not begin with ASCII has the plain characters in one of two orders. -/
theorem sublist_chars (p : Page) :
    p.low = ascii ∨ plainChars.Sublist (p.chars.take 256) ∨
      letterFirst.Sublist (p.chars.take 256) := by
  rw [← List.isSublist_iff_sublist, ← List.isSublist_iff_sublist]
  unfold plainChars letterFirst chars high low
  cases p with
  | cp864 =>
    refine .inr (.inl ?_)
    dsimp only
    simp only [text_cons, text_nil]
    repeat rw [String.toList_ofList]
    decide +kernel
  | cp037 | cp1026 | cp1140 | cp273 | cp424 | cp500 | cp875 =>
    refine .inr (.inr ?_)
    dsimp only
    simp only [text_cons, text_nil]
    repeat rw [String.toList_ofList]
    decide +kernel
  | _ => exact .inl rfl

theorem isSome_byte?_of_plain (p : Page) (hc : c ∈ plainChars) : (p.byte? c).isSome = true := by
  have hlt := (toNat_of_plain c hc).1
  have hne : c ≠ hole := ne_of_plain hc (by decide)
  rcases p.sublist_chars with hp | hp | hp
  · exact isSome_byte?_of_mem (mem_take_of_low hp (by omega)) hne
  · exact isSome_byte?_of_mem (hp.subset hc) hne
  · exact isSome_byte?_of_mem (hp.subset (mem_letterFirst c hc)) hne

end Page

/-! ## Plain texts -/

variable {e : Encoding} {s : State} {f : Stream} {t : Text} {c : Char}

/-- Whether plain texts are written character by character, with nothing between them. -/
def isFaithful : Encoding → Bool
  | .punycode | .domain | .undefined => false
  | _ => true

/-- The bytes of a plain character. -/
def plainByte (e : Encoding) (c : Char) : List UInt8 :=
  (e.charBytes? c).getD [UInt8.ofNat c.toNat]

def plainBytes (e : Encoding) (t : Text) : List UInt8 := t.flatMap e.plainByte

/-- Nothing waits, and bytes are not of a set behind the shift. -/
structure State.IsFree (s : State) : Prop where
  held : s.held = []
  notShifted : s.isShifted = false

/-- The state behind a plain character. -/
def inAscii (e : Encoding) (s : State) : State :=
  match e with
  | .escaping _ => { s with called := some .ascii }
  | _ => s

theorem isFree_inAscii (h : s.IsFree) : (e.inAscii s).IsFree := by
  cases e with
  | escaping x => exact ⟨h.held, h.notShifted⟩
  | _ => exact h

theorem back_inAscii (h : s.IsFree) : e.back (e.inAscii s) = [] := by
  cases e <;> simp [back, inAscii, h.notShifted]

theorem awaits_eq_false (hc : c ∈ plainChars) : e.awaits c = false := by
  obtain ⟨hj, hh⟩ := awaits_of_plain c hc
  cases e with
  | doubleByte d => cases d <;> first | exact hh | exact hj | rfl
  | escaping x => simp [awaits, Escaping.awaits, hj]
  | _ => rfl

theorem Escaping.put?_plain {x : Escaping} (hs : s.IsFree) (hc : c ∈ plainChars) :
    x.put? s c = some (back (.escaping x) s ++ [UInt8.ofNat c.toNat],
      { s with called := some .ascii }) := by
  have hn : c.toNat < 128 := by
    have := (toNat_of_plain c hc).1
    omega
  obtain ⟨held, called, calledBehind, isShifted⟩ := s
  obtain rfl : isShifted = false := hs.notShifted
  simp [Escaping.put?, Charset.bytes?, hn, callSet, call, back, Charset.escape, Charset.mark]

theorem Tilde.put?_plain (hs : s.IsFree) (hc : c ∈ plainChars) :
    Tilde.put? s c = some ([UInt8.ofNat c.toNat], s) := by
  have hlt := (toNat_of_plain c hc).1
  have hn : c.toNat < 128 := by omega
  have ht : c ≠ '~' := ne_of_plain hc (by decide)
  obtain ⟨held, called, calledBehind, isShifted⟩ := s
  obtain rfl : isShifted = false := hs.notShifted
  simp [Tilde.put?, hn, ht]

theorem isSome_charBytes? (hc : c ∈ plainChars) (hf : e.isFaithful = true) (h7 : e ≠ .utf7)
    (hx : ∀ x, e ≠ .escaping x) (ht : e ≠ .tilde) : (e.charBytes? c).isSome = true := by
  have hlt := (toNat_of_plain c hc).1
  cases e with
  | utf7 => exact absurd rfl h7
  | escaping x => exact absurd rfl (hx x)
  | tilde => exact absurd rfl ht
  | punycode | domain | undefined => contradiction
  | latin1 => simp [charBytes?, below, show c.toNat < 256 by omega]
  | ascii => simp [charBytes?, below, show c.toNat < 128 by omega]
  | page p =>
    rw [charBytes?, Option.isSome_map]
    exact p.isSome_byte?_of_plain hc
  | doubleByte d => simp [charBytes?, DoubleByte.charBytes?, isAscii_of_plain hc]
  | utf8 | utf16 | utf32 | escapes | rawEscapes => rfl

/-- A plain character is written where it stands, behind the marks that call ASCII. -/
theorem step_plain (hf : e.isFaithful = true) (h7 : e ≠ .utf7) (hs : s.IsFree)
    (hc : c ∈ plainChars) : e.step s c = .ok (e.back s ++ e.plainByte c, e.inAscii s) := by
  have hd : e ≠ .domain := by
    rintro rfl
    cases hf
  rw [step_eq_ok_iff hd, takeBehind?, hs.held, take?, awaits_eq_false hc]
  by_cases hx : ∃ x, e = .escaping x
  · obtain ⟨x, rfl⟩ := hx
    exact Escaping.put?_plain hs hc
  by_cases ht : e = .tilde
  · subst ht
    have hput := Tilde.put?_plain hs hc
    simpa [put?, back, hs.notShifted, plainByte, charBytes?, inAscii] using hput
  · have hsome := isSome_charBytes? hc hf h7 (fun x he => hx ⟨x, he⟩) ht
    obtain ⟨bytes, hb⟩ := Option.isSome_iff_exists.1 hsome
    cases e with
    | escaping x => exact absurd ⟨x, rfl⟩ hx
    | tilde => exact absurd rfl ht
    | _ => simp [put?, hb, plainByte, back, inAscii]

namespace IsPlain

variable {u : Text}

theorem of_all (h : t.all (plainChars.contains ·) = true) : IsPlain t := by
  intro c hc
  exact List.contains_iff_mem.1 (List.all_eq_true.1 h c hc)

theorem append (ht : IsPlain t) (hu : IsPlain u) : IsPlain (t ++ u) := by
  intro c hc
  rcases List.mem_append.1 hc with hc | hc
  · exact ht c hc
  · exact hu c hc

theorem cons (hc : c ∈ plainChars) (ht : IsPlain t) : IsPlain (c :: t) := by
  intro d hd
  rcases List.mem_cons.1 hd with rfl | hd
  · exact hc
  · exact ht d hd

theorem isAscii (h : IsPlain t) : t.IsAscii := by
  intro c hc
  have hlt := (toNat_of_plain c (h c hc)).1
  omega

theorem head (h : IsPlain (c :: t)) : c ∈ plainChars := h c (List.mem_cons_self ..)

theorem tail (h : IsPlain (c :: t)) : IsPlain t := fun d hd => h d (List.mem_cons_of_mem _ hd)

end IsPlain

/-- The state behind a plain text. -/
def behind (e : Encoding) (s : State) (t : Text) : State := if t = [] then s else e.inAscii s

/-- The marks by which ASCII is called before a text, if there is a character in it. -/
def calling (e : Encoding) (s : State) (t : Text) : List UInt8 := if t = [] then [] else e.back s

theorem encodeFrom_plain (hf : e.isFaithful = true) (h7 : e ≠ .utf7) (hs : s.IsFree)
    (ht : IsPlain t) (n : Nat) :
    e.encodeFrom n s t = .ok (e.calling s t ++ e.plainBytes t, e.behind s t) := by
  induction t generalizing n s with
  | nil => rfl
  | cons c t ih =>
    have hrest := ih (isFree_inAscii (e := e) hs) ht.tail (n + 1)
    have hcalling : e.calling (e.inAscii s) t = [] := by
      rw [calling]
      split
      · rfl
      · exact back_inAscii hs
    have hbehind : e.behind (e.inAscii s) t = e.behind s (c :: t) := by
      cases e <;> simp [behind, inAscii]
    rw [hcalling, hbehind] at hrest
    refine encodeFrom_cons_eq_ok_iff.2 ⟨_, _, _, step_plain hf h7 hs ht.head, hrest, ?_⟩
    simp [calling, plainBytes]

/-- In UTF-7 a plain text is written as it is. -/
theorem utf7Text_of_isPlain (ht : IsPlain t) : utf7Text t = t := by
  induction t with
  | nil => rw [utf7Text]
  | cons c t ih => rw [utf7Text, if_pos (isDirect_of_plain c ht.head), ih ht.tail]

theorem encode_plain (hf : e.isFaithful = true) (hs : s.IsFree) (ht : IsPlain t) :
    e.encode s t = .ok (e.calling s t ++ e.plainBytes t, e.behind s t) := by
  by_cases h7 : e = .utf7
  · subst h7
    have hcalling : calling .utf7 s t = [] := by
      rw [calling]
      split <;> rfl
    have hbehind : behind .utf7 s t = s := by
      rw [behind]
      split <;> rfl
    have hbytes : plainBytes .utf7 t = asciiBytes t := by
      rw [asciiBytes, List.map_eq_flatMap]
      rfl
    rw [encode, utf7Text_of_isPlain ht, hcalling, hbehind, hbytes, List.nil_append]
  · have hsep : e.isSeparate = false ∧ e ≠ .undefined := by
      cases e <;> first | contradiction | exact ⟨rfl, by simp⟩
    rw [encode_eq_encodeFrom hsep.1 hsep.2]
    exact encodeFrom_plain hf h7 hs ht _

/-! ## Files of plain texts -/

variable {ts : List Text}

/-- What an encoder gives before plain texts: the mark of a new file, and the marks that call
ASCII. -/
def lead (e : Encoding) (f : Stream) (ts : List Text) : List UInt8 :=
  (if f.isBeginning && !ts.isEmpty then e.mark else []) ++ e.calling f.state ts.flatten

theorem calling_append (hs : s.IsFree) (t u : Text) :
    e.calling s (t ++ u) = e.calling s t ++ e.calling (e.behind s t) u := by
  cases t with
  | nil => rfl
  | cons c t => simp [calling, behind, back_inAscii hs]

theorem isFree_behind (hs : s.IsFree) (t : Text) : (e.behind s t).IsFree := by
  rw [behind]
  split
  · exact hs
  · exact isFree_inAscii hs

theorem exists_writes_plain (hf : e.isFaithful = true) (hs : f.state.IsFree)
    (ht : ∀ t ∈ ts, IsPlain t) :
    ∃ g, e.Writes f ts (e.lead f ts ++ e.plainBytes ts.flatten) g := by
  induction ts generalizing f with
  | nil => exact ⟨f, by simpa [lead, calling, plainBytes] using Writes.nil⟩
  | cons t ts ih =>
    have hw := write_eq_ok_iff.2 ⟨_, _, encode_plain hf hs (ht t (List.mem_cons_self ..)), rfl, rfl⟩
    obtain ⟨g, hg⟩ := ih (f := ⟨false, e.behind f.state t⟩) (isFree_behind hs t)
      fun u hu => ht u (List.mem_cons_of_mem _ hu)
    refine ⟨g, ?_⟩
    have hall := Writes.cons hw hg
    have hcalling := calling_append (e := e) hs t ts.flatten
    -- The marks of the texts behind the first one come where they are due.
    have hbytes : e.lead f (t :: ts) ++ e.plainBytes (t :: ts).flatten =
        ((if f.isBeginning = true then e.mark else []) ++
          (e.calling f.state t ++ e.plainBytes t)) ++
        (e.lead ⟨false, e.behind f.state t⟩ ts ++ e.plainBytes ts.flatten) := by
      cases t with
      | nil => simp [lead, calling, behind, plainBytes]
      | cons c t => simp [lead, calling, behind, plainBytes, back_inAscii hs]
    rw [hbytes]
    exact hall

/-- A new file of plain texts has the mark and the bytes of the characters; behind what is in a file,
ASCII may have to be called first. -/
theorem lead_opened (b : Bool) (hts : ts.flatten ≠ []) :
    e.lead (.opened b) ts = if b then e.mark else e.back { called := none } := by
  have hne : ts ≠ [] := by
    rintro rfl
    exact hts rfl
  cases b with
  | true =>
    have hback : e.back {} = [] := by cases e <;> rfl
    simp [lead, Stream.opened, hne, calling, hback]
  | false => simp [lead, Stream.opened, calling, hts]

/-- Only where marks are escape sequences, ASCII is called behind what is in a file. -/
theorem back_unknown (hx : ∀ x, e ≠ .escaping x) : e.back { called := none } = [] := by
  cases e with
  | escaping x => exact absurd rfl (hx x)
  | _ => rfl

theorem isFree_opened (b : Bool) : (Stream.opened b).state.IsFree := by
  cases b <;> exact ⟨rfl, rfl⟩

/-! ## The encodings that add something or leave something out -/

/-- A text gets a hyphen, as if digits for other characters were to come behind it. -/
theorem Punycode.encode_of_isAscii (ht : t.IsAscii) (hne : t ≠ []) :
    Punycode.encode t = t ++ ['-'] := by
  have hbase : t.filter (·.toNat < 128) = t :=
    List.filter_eq_self.2 fun c hc => decide_eq_true (ht c hc)
  have hothers : t.filter (128 ≤ ·.toNat) = [] :=
    List.filter_eq_nil_iff.2 fun c hc => by simpa using ht c hc
  simp [Punycode.encode, hbase, hothers, hne, Punycode.distances, Punycode.numbers]

theorem exists_writes_punycode (ht : ∀ t ∈ ts, IsPlain t ∧ t ≠ []) (f : Stream) :
    ∃ g, Writes .punycode f ts (asciiBytes (ts.flatMap (· ++ ['-']))) g := by
  induction ts generalizing f with
  | nil => exact ⟨f, .nil⟩
  | cons t ts ih =>
    obtain ⟨hplain, hne⟩ := ht t (List.mem_cons_self ..)
    have hencode := Punycode.encode_of_isAscii hplain.isAscii hne
    obtain ⟨g, hg⟩ := ih (fun u hu => ht u (List.mem_cons_of_mem _ hu)) ⟨false, f.state⟩
    have hw : write .punycode f t = .ok (asciiBytes (t ++ ['-']), ⟨false, f.state⟩) :=
      write_eq_ok_iff.2 ⟨_, _, rfl, by simp [mark, hencode], rfl⟩
    refine ⟨g, ?_⟩
    have hall := Writes.cons hw hg
    simpa [asciiBytes] using hall

theorem encodeFrom_domain (ht : IsPlain t) (n : Nat) (s : State) :
    ∃ s', encodeFrom .domain n s t = .ok ([], s') := by
  induction t generalizing n s with
  | nil => exact ⟨s, rfl⟩
  | cons c t ih =>
    obtain ⟨s', hs'⟩ := ih ht.tail (n + 1) { s with held := s.held ++ [c] }
    refine ⟨s', encodeFrom_cons_eq_ok_iff.2 ⟨[], _, [], ?_, hs', rfl⟩⟩
    simp [step, not_isDot_of_plain c ht.head]

/-- Without a dot no label of a host comes to its end, and nothing is written. -/
theorem exists_writes_domain (ht : ∀ t ∈ ts, IsPlain t) (f : Stream) :
    ∃ g, Writes .domain f ts [] g := by
  induction ts generalizing f with
  | nil => exact ⟨f, .nil⟩
  | cons t ts ih =>
    obtain ⟨s, hs⟩ := encodeFrom_domain (ht t (List.mem_cons_self ..)) f.state.held.length f.state
    obtain ⟨g, hg⟩ := ih (fun u hu => ht u (List.mem_cons_of_mem _ hu)) ⟨false, s⟩
    have hw : write .domain f t = .ok ([], ⟨false, s⟩) :=
      write_eq_ok_iff.2 ⟨[], s, hs, by simp [mark], rfl⟩
    exact ⟨g, .cons hw hg⟩

/-- Plain texts are never refused. -/
theorem exists_writes_of_isPlain (hu : e ≠ .undefined) (ht : ∀ t ∈ ts, IsPlain t ∧ t ≠ [])
    (b : Bool) : ∃ bytes g, e.Writes (.opened b) ts bytes g := by
  have hplain : ∀ t ∈ ts, IsPlain t := fun t h => (ht t h).1
  by_cases hf : e.isFaithful = true
  · exact ⟨_, exists_writes_plain hf (isFree_opened b) hplain⟩
  · cases e with
    | punycode => exact ⟨_, exists_writes_punycode ht _⟩
    | domain => exact ⟨_, exists_writes_domain hplain _⟩
    | undefined => exact absurd rfl hu
    | _ => exact absurd rfl hf

end Encoding

/-! ## The lines of records -/

open Encoding

theorem Numeral.isPlain_ofInt (n : Int) : IsPlain (ofInt n) := by
  have hdigits : ∀ n < 58, 48 ≤ n → Char.ofNat n ∈ plainChars := by decide +kernel
  intro c hc
  rcases isDigit_or_eq_minus_of_mem_ofInt hc with h | rfl
  · obtain ⟨hlow, hhigh⟩ : 48 ≤ c.toNat ∧ c.toNat ≤ 57 := Char.isDigit_iff_toNat.1 h
    have hmem := hdigits c.toNat (by omega) hlow
    rwa [Char.ofNat_toNat] at hmem
  · decide +kernel

namespace Record

theorem isPlain_flagWords (f s : Bool) : IsPlain (flagWords f s) := by
  cases f <;> cases s <;> exact .of_all (by decide +kernel)

theorem isPlain_spelled (r : Record) : IsPlain r.spelled := by
  have hspace : ' ' ∈ plainChars := by decide +kernel
  cases r with
  | state id f s =>
    have hdef : IsPlain "def ".toList := .of_all (by decide +kernel)
    exact (hdef.append (Numeral.isPlain_ofInt id)).append (.cons hspace (isPlain_flagWords f s))
  | trans source target code =>
    have htrans : IsPlain "trans ".toList := .of_all (by decide +kernel)
    have hs := Numeral.isPlain_ofInt source
    have ht := Numeral.isPlain_ofInt target
    have hc := Numeral.isPlain_ofInt code
    exact ((htrans.append hs).append (.cons hspace ht)).append (.cons hspace hc)
  | sentinel => exact .of_all (by decide +kernel)

/-- What is between the words of a line are numbers. -/
theorem isPlain_spelledLines (records : List Record) :
    ∀ t ∈ spelledLines records, IsPlain t ∧ t ≠ [] := by
  intro t ht
  obtain ⟨r, -, rfl⟩ := List.mem_map.1 ht
  exact ⟨(isPlain_spelled r).append (.of_all (by decide +kernel)), by simp⟩

theorem isPlain_flatten_spelledLines (records : List Record) :
    IsPlain (spelledLines records).flatten := by
  intro c hc
  obtain ⟨t, ht, hct⟩ := List.mem_flatten.1 hc
  exact (isPlain_spelledLines records t ht).1 c hct

end Record
end DfaTable
