import DfaTable.Proofs.Encoding.Ascii
import Mathlib.Data.List.Infix

/-!
# DfaTable.Proofs.Encoding.Decoding

The text of bytes, character by character, and that it is the text that was written. Bytes are read
as far as this is plain: a run of base 64, a pair of halves, two bytes for a character and an escape
by number have no answer here. The texts of interest are plain, like the lines of records.

* `decode?`: the text of the bytes of a file, whose mark is not part of it.
* `decode?_plain`: a file of plain texts has the text that they make up, in nearly every encoding.
* `encodeAll_plain`: what becomes of plain texts in any encoding.
* `not_mark_isPrefix`: no plain text begins like a mark.
-/

namespace DfaTable.Encoding

/-! ## Reading bytes -/

/-- The number of two bytes. -/
def ofPair : ByteOrder → UInt8 → UInt8 → Nat
  | .little, a, b => a.toNat + b.toNat * 256
  | .big, a, b => a.toNat * 256 + b.toNat

/-- The number of four bytes. -/
def ofQuad : ByteOrder → UInt8 → UInt8 → UInt8 → UInt8 → Nat
  | .little, a, b, c, d => ofPair .little a b + ofPair .little c d * 65536
  | .big, a, b, c, d => ofPair .big a b * 65536 + ofPair .big c d

/-- The character of a number, unless it is half of a pair or too large. -/
def charOf? (n : Nat) : Option Char := if n.isValidChar then some (Char.ofNat n) else none

def asciiChar? (b : UInt8) : Option Char := if b.toNat < 128 then charOf? b.toNat else none

/-- The character for which a byte stands behind a backslash. -/
def escaped? (b : UInt8) : Option Char :=
  [(0x5C, '\\'), (0x6E, '\n'), (0x72, '\r'), (0x74, '\t')].lookup b

/-- What the first of some bytes stands for, and how many bytes behind it belong to it. -/
def first? (e : Encoding) (b : UInt8) (rest : List UInt8) : Option (Text × Nat) :=
  match e with
  | .utf8 _ => (Utf8.first b rest).toOption.map fun (c, more) => ([c], more)
  | .utf7 =>
    if b = 0x2B then
      if rest.head? = some 0x2D then some (['+'], 1) else none
    else (asciiChar? b).map (([·], 0))
  | .utf16 order _ =>
    match rest with
    | b' :: _ => (charOf? (ofPair order b b')).map (([·], 1))
    | [] => none
  | .utf32 order _ =>
    match rest with
    | b' :: c :: d :: _ => (charOf? (ofQuad order b b' c d)).map (([·], 3))
    | _ => none
  | .latin1 => (charOf? b.toNat).map (([·], 0))
  | .ascii | .doubleByte _ => (asciiChar? b).map (([·], 0))
  | .page p => (p.char? b).map (([·], 0))
  | .escaping _ =>
    -- ASCII may be called where it is called already.
    if b = 0x1B then if rest.take 2 = [0x28, 0x42] then some ([], 2) else none
    else if b = 0x0E || b = 0x0F then none
    else (asciiChar? b).map (([·], 0))
  | .tilde =>
    if b = 0x7E then if rest.head? = some 0x7E then some (['~'], 1) else none
    else (asciiChar? b).map (([·], 0))
  | .escapes =>
    if b = 0x5C then (rest.head?.bind escaped?).map (([·], 1))
    else (charOf? b.toNat).map (([·], 0))
  | .rawEscapes => if b = 0x5C then none else (charOf? b.toNat).map (([·], 0))
  | .punycode | .domain | .undefined => none

/-- The text of bytes, of which the first ones are part of a character before. -/
def readFrom (e : Encoding) : Nat → List UInt8 → Option Text
  | _, [] => some []
  | skipped + 1, _ :: rest => e.readFrom skipped rest
  | 0, b :: rest =>
    match e.first? b rest with
    | some (t, more) => (e.readFrom more rest).map (t ++ ·)
    | none => none

/-- The bytes of a file without its mark. -/
def unmark (e : Encoding) (bytes : List UInt8) : List UInt8 :=
  if e.mark.isPrefixOf bytes then bytes.drop e.mark.length else bytes

/-- The text of the bytes of a file. -/
def decode? (e : Encoding) (bytes : List UInt8) : Option Text :=
  match e with
  | .punycode =>
    -- Behind the last hyphen are the places of other characters, if there are any.
    if bytes.isEmpty then some []
    else if bytes.getLast? = some 0x2D then bytes.dropLast.mapM asciiChar?
    else none
  | .domain => if asciiBytes Domain.acePrefix <:+: bytes then none else bytes.mapM asciiChar?
  | e => e.readFrom 0 (e.unmark bytes)

example : decode? (.utf16 .little true) [0xFF, 0xFE, 0x61, 0, 0x0A, 0] = some ['a', '\n'] := by
  decide
example : decode? .escapes [0x61, 0x5C, 0x6E] = some ['a', '\n'] := by decide
example : decode? (.escaping .jp) [0x1B, 0x28, 0x42, 0x61] = some ['a'] := by decide

variable {e : Encoding} {s : State} {t : Text} {c : Char} {bytes : List UInt8}

/-! ## Plain characters -/

theorem charOf?_toNat (c : Char) : charOf? c.toNat = some c := by
  have hv : c.toNat.isValidChar := c.valid
  rw [charOf?, if_pos hv, Char.ofNat_toNat]

theorem toNat_ofNat_of_lt {n : Nat} (h : n < 256) : (UInt8.ofNat n).toNat = n := by
  simp only [UInt8.toNat_ofNat']
  omega

theorem asciiChar?_ofNat (h : c.toNat < 128) : asciiChar? (UInt8.ofNat c.toNat) = some c := by
  rw [asciiChar?, toNat_ofNat_of_lt (by omega), if_pos h, charOf?_toNat]

theorem ofPair_pair (order : ByteOrder) {n : Nat} (h : n < 65536) :
    ∃ a b, pair order n = [a, b] ∧ ofPair order a b = n := by
  have hlow := toNat_ofNat_of_lt (n := n % 256) (by omega)
  have hhigh := toNat_ofNat_of_lt (n := n / 256) (by omega)
  cases order with
  | little => exact ⟨_, _, rfl, by rw [ofPair, hlow, hhigh]; omega⟩
  | big => exact ⟨_, _, rfl, by rw [ofPair, hlow, hhigh]; omega⟩

theorem ofQuad_quad (order : ByteOrder) {n : Nat} (h : n < 4294967296) :
    ∃ a b c d, quad order n = [a, b, c, d] ∧ ofQuad order a b c d = n := by
  obtain ⟨a, b, hlow, ha⟩ := ofPair_pair order (n := n % 65536) (by omega)
  obtain ⟨c, d, hhigh, hc⟩ := ofPair_pair order (n := n / 65536) (by omega)
  cases order with
  | little =>
    refine ⟨a, b, c, d, by rw [quad, hlow, hhigh]; rfl, ?_⟩
    rw [ofQuad, ha, hc]
    omega
  | big =>
    refine ⟨c, d, a, b, by rw [quad, hlow, hhigh]; rfl, ?_⟩
    rw [ofQuad, ha, hc]
    omega

/-- The bytes that begin something else than a character. -/
def signals : List UInt8 := [0x0E, 0x0F, 0x1B, 0x2B, 0x5C, 0x7E]

theorem notMem_signals_of_plain : ∀ c ∈ plainChars, UInt8.ofNat c.toNat ∉ signals :=
  forall_plain (by decide +kernel)

theorem escapeText_of_plain : ∀ c ∈ plainChars,
    escapeText c = [c] ∧ c ≠ '\n' ∨ escapeText c = ['\\', 'n'] ∧ c = '\n' :=
  forall_plain (by decide +kernel)

/-- A plain character is read back where it was written. -/
theorem first?_plainByte (hf : e.isFaithful = true) (hc : c ∈ plainChars) :
    ∃ b more, e.plainByte c = b :: more ∧
      ∀ rest, e.first? b (more ++ rest) = some ([c], more.length) := by
  have hlt := (toNat_of_plain c hc).1
  have hn : c.toNat < 0x10000 := by omega
  have hascii := asciiChar?_ofNat (c := c) (by omega)
  have hsignals := notMem_signals_of_plain c hc
  simp only [signals, List.mem_cons, List.not_mem_nil, or_false, not_or] at hsignals
  obtain ⟨h0E, h0F, h1B, h2B, h5C, h7E⟩ := hsignals
  have hone : charOf? (UInt8.ofNat c.toNat).toNat = some c := by
    rw [toNat_ofNat_of_lt (by omega), charOf?_toNat]
  cases e with
  | punycode | domain | undefined => contradiction
  | utf8 marked =>
    obtain ⟨b, more, he, -⟩ := Utf8.first_encodeChar c []
    refine ⟨b, more, by rw [plainByte, charBytes?, he]; rfl, fun rest => ?_⟩
    obtain ⟨b', more', he', hf⟩ := Utf8.first_encodeChar c rest
    rw [he, List.cons.injEq] at he'
    rw [first?, he'.1, he'.2, hf]
    rfl
  | utf16 order marked =>
    obtain ⟨a, b, hp, hv⟩ := ofPair_pair order hn
    refine ⟨a, [b], by simp [plainByte, charBytes?, units, hn, hp], fun rest => ?_⟩
    simp [first?, hv, charOf?_toNat]
  | utf32 order marked =>
    obtain ⟨a, b, d, d', hq, hv⟩ := ofQuad_quad order (n := c.toNat) (by omega)
    refine ⟨a, [b, d, d'], by simp [plainByte, charBytes?, hq], fun rest => ?_⟩
    simp [first?, hv, charOf?_toNat]
  | page p =>
    obtain ⟨b, hb⟩ := Option.isSome_iff_exists.1 (p.isSome_byte?_of_plain hc)
    refine ⟨b, [], by rw [plainByte, charBytes?, hb]; rfl, fun rest => ?_⟩
    rw [first?, Page.char?_of_byte? hb]
    rfl
  | escapes =>
    rcases escapeText_of_plain c hc with ⟨ht, -⟩ | ⟨ht, rfl⟩
    · refine ⟨UInt8.ofNat c.toNat, [], by simp [plainByte, charBytes?, ht, asciiBytes], fun _ => ?_⟩
      rw [first?, if_neg h5C, hone]
      rfl
    · exact ⟨0x5C, [0x6E], by decide, fun _ => rfl⟩
  | latin1 =>
    have hn : c.toNat < 256 := by omega
    refine ⟨UInt8.ofNat c.toNat, [], by simp [plainByte, charBytes?, below, hn], fun rest => ?_⟩
    rw [first?, hone]
    rfl
  | rawEscapes =>
    have hn : c.toNat < 256 := by omega
    refine ⟨UInt8.ofNat c.toNat, [], by simp [plainByte, charBytes?, rawEscapeBytes, hn],
      fun rest => ?_⟩
    rw [first?, if_neg h5C, hone]
    rfl
  | ascii =>
    have hn : c.toNat < 128 := by omega
    refine ⟨UInt8.ofNat c.toNat, [], by simp [plainByte, charBytes?, below, hn], fun rest => ?_⟩
    rw [first?, hascii]
    rfl
  | doubleByte d =>
    refine ⟨UInt8.ofNat c.toNat, [], ?_, fun rest => ?_⟩
    · simp [plainByte, charBytes?, DoubleByte.charBytes?, isAscii_of_plain hc]
    · rw [first?, hascii]
      rfl
  | utf7 =>
    refine ⟨UInt8.ofNat c.toNat, [], rfl, fun rest => ?_⟩
    rw [first?, if_neg h2B, hascii]
    rfl
  | escaping x =>
    refine ⟨UInt8.ofNat c.toNat, [], rfl, fun rest => ?_⟩
    rw [first?, if_neg h1B, if_neg (by simp [h0E, h0F]), hascii]
    rfl
  | tilde =>
    refine ⟨UInt8.ofNat c.toNat, [], rfl, fun rest => ?_⟩
    rw [first?, if_neg h7E, hascii]
    rfl

/-! ## Plain texts -/

theorem readFrom_length (skipped rest : List UInt8) :
    e.readFrom skipped.length (skipped ++ rest) = e.readFrom 0 rest := by
  induction skipped with
  | nil => rfl
  | cons b skipped ih => exact ih

/-- What comes first is read, and then what is behind it. -/
theorem readFrom_cons {b : UInt8} (more : List UInt8) {rest : List UInt8}
    (h : e.first? b (more ++ rest) = some (t, more.length)) :
    e.readFrom 0 (b :: (more ++ rest)) = (e.readFrom 0 rest).map (t ++ ·) := by
  rw [readFrom, h]
  dsimp only
  rw [readFrom_length]

theorem readFrom_plainBytes (hf : e.isFaithful = true) (ht : IsPlain t) :
    e.readFrom 0 (e.plainBytes t) = some t := by
  induction t with
  | nil => rfl
  | cons c t ih =>
    obtain ⟨b, more, hb, hfirst⟩ := first?_plainByte hf ht.head
    have hread := readFrom_cons more (hfirst (e.plainBytes t))
    rw [ih ht.tail] at hread
    have hbytes : e.plainBytes (c :: t) = b :: (more ++ e.plainBytes t) := by
      show e.plainByte c ++ e.plainBytes t = _
      rw [hb]
      rfl
    rw [hbytes, hread]
    rfl

/-! ## Files -/

/-- A mark is read as a character of its own. -/
theorem readFrom_mark (hm : e.mark ≠ []) (rest : List UInt8) :
    e.readFrom 0 (e.mark ++ rest) = (e.readFrom 0 rest).map (['\ufeff'] ++ ·) := by
  have hmark : charOf? 0xFEFF = some '\ufeff' := charOf?_toNat '\ufeff'
  cases e with
  | utf8 marked =>
    cases marked with
    | false => exact absurd rfl hm
    | true => exact readFrom_cons [0xBB, 0xBF] rfl
  | utf16 order marked =>
    cases marked with
    | false => exact absurd rfl hm
    | true =>
      obtain ⟨a, b, hp, hv⟩ := ofPair_pair order (n := 0xFEFF) (by omega)
      rw [mark, hp]
      exact readFrom_cons [b] (by simp [first?, hv, hmark])
  | utf32 order marked =>
    cases marked with
    | false => exact absurd rfl hm
    | true =>
      obtain ⟨a, b, c, d, hq, hv⟩ := ofQuad_quad order (n := 0xFEFF) (by omega)
      rw [mark, hq]
      exact readFrom_cons [b, c, d] (by simp [first?, hv, hmark])
  | _ => exact absurd rfl hm

/-- No plain text begins like a mark. -/
theorem not_mark_isPrefix (hm : e.mark ≠ []) (ht : IsPlain t) : ¬ e.mark <+: e.plainBytes t := by
  rintro ⟨rest, hrest⟩
  have hf : e.isFaithful = true := by
    cases e <;> first | rfl | exact absurd rfl hm
  have hread := readFrom_plainBytes hf ht
  rw [← hrest, readFrom_mark hm, Option.map_eq_some_iff] at hread
  obtain ⟨t', -, rfl⟩ := hread
  exact ne_of_plain ht.head (d := '\ufeff') (by decide) rfl

theorem decode?_of_isFaithful (hf : e.isFaithful = true) (bytes : List UInt8) :
    e.decode? bytes = e.readFrom 0 (e.unmark bytes) := by
  cases e <;> first | rfl | contradiction

theorem unmark_of_mark_eq_nil (hm : e.mark = []) (bytes : List UInt8) : e.unmark bytes = bytes := by
  rw [unmark, hm]
  simp

theorem unmark_plainBytes (ht : IsPlain t) : e.unmark (e.plainBytes t) = e.plainBytes t := by
  by_cases hm : e.mark = []
  · exact unmark_of_mark_eq_nil hm _
  · rw [unmark, if_neg (mt List.isPrefixOf_iff_prefix.1 (not_mark_isPrefix hm ht))]

variable {ts : List Text}

/-- A file of plain texts has the text that they make up, whether there was something in it or
not. -/
theorem decode?_plain (hf : e.isFaithful = true) (b : Bool) (ht : IsPlain ts.flatten) :
    e.decode? (e.lead (.opened b) ts ++ e.plainBytes ts.flatten) = some ts.flatten := by
  have hread := readFrom_plainBytes hf ht
  rw [decode?_of_isFaithful hf]
  by_cases hts : ts.flatten = []
  · have hlead : e.lead (.opened b) ts = [] ∨ e.lead (.opened b) ts = e.mark := by
      rw [lead, hts]
      split
      · exact .inr (List.append_nil _)
      · exact .inl rfl
    rw [hts]
    rcases hlead with h | h
    · rw [h, List.nil_append, unmark_plainBytes (by simp [IsPlain])]
      rfl
    · simp [h, plainBytes, unmark, readFrom]
  rw [lead_opened b hts]
  cases b with
  | true =>
    have hp : e.mark.isPrefixOf (e.mark ++ e.plainBytes ts.flatten) = true :=
      List.isPrefixOf_iff_prefix.2 (List.prefix_append ..)
    rw [if_pos rfl, unmark, if_pos hp, List.drop_left, hread]
  | false =>
    rw [if_neg Bool.false_ne_true]
    by_cases hx : ∃ x, e = .escaping x
    · obtain ⟨x, rfl⟩ := hx
      rw [unmark_of_mark_eq_nil rfl]
      have hskip : readFrom (.escaping x) 0
            ([0x1B, 0x28, 0x42] ++ plainBytes (.escaping x) ts.flatten) =
          (readFrom (.escaping x) 0 (plainBytes (.escaping x) ts.flatten)).map ([] ++ ·) :=
        readFrom_cons [0x28, 0x42] rfl
      rw [hread] at hskip
      exact hskip
    · rw [back_unknown fun x he => hx ⟨x, he⟩, List.nil_append, unmark_plainBytes ht, hread]

/-! ## The encodings that add something or leave something out -/

theorem mapM_asciiChar?_asciiBytes (ht : t.IsAscii) : (asciiBytes t).mapM asciiChar? = some t := by
  induction t with
  | nil => rfl
  | cons c t ih =>
    have hc := asciiChar?_ofNat (ht c (List.mem_cons_self ..))
    have hrest := ih fun d hd => ht d (List.mem_cons_of_mem _ hd)
    rw [asciiBytes] at hrest
    simp [asciiBytes, hc, hrest]

/-- By itself a text of ASCII is read back in Punycode as well. -/
theorem decode?_whole?_punycode (ht : t.IsAscii) :
    (whole? .punycode t).bind (decode? .punycode) = some t := by
  have hwhole : whole? .punycode t = some (asciiBytes (Punycode.encode t)) := by
    simp [whole?, write, encode, Except.map, mark, ending?, back, Stream.opened]
  rw [hwhole, Option.bind_some]
  by_cases hne : t = []
  · subst hne
    decide +kernel
  · have hbytes : asciiBytes (t ++ ['-']) = asciiBytes t ++ [0x2D] := by
      simp [asciiBytes]
    rw [Punycode.encode_of_isAscii ht hne, hbytes]
    simpa [decode?] using mapM_asciiChar?_asciiBytes ht

/-- What becomes of plain texts. Nothing is left unwritten, and they are read back from the bytes,
unless a hyphen comes behind each of them or nothing is written at all. -/
structure Keeps (e : Encoding) (ts : List Text) (bytes : List UInt8) : Prop where
  decodes : e.isFaithful = true → e.decode? bytes = some ts.flatten
  punycode : e = .punycode → bytes = asciiBytes (ts.flatMap (· ++ ['-']))
  domain : e = .domain → bytes = []

theorem encodeAll_plain (hu : e ≠ .undefined) (ht : ∀ t ∈ ts, IsPlain t ∧ t ≠ []) (b : Bool) :
    ∃ bytes, e.encodeAll (.opened b) ts = (bytes, none) ∧ e.Keeps ts bytes := by
  have hplain : ∀ t ∈ ts, IsPlain t := fun t h => (ht t h).1
  have hall : IsPlain ts.flatten := by
    intro c hc
    obtain ⟨t, hm, hct⟩ := List.mem_flatten.1 hc
    exact hplain t hm c hct
  by_cases hf : e.isFaithful = true
  · obtain ⟨g, hw⟩ := exists_writes_plain hf (isFree_opened b) hplain
    refine ⟨_, encodeAll_of_writes hw, fun _ => decode?_plain hf b hall, ?_, ?_⟩ <;>
      · rintro rfl
        cases hf
  · cases e with
    | punycode =>
      obtain ⟨g, hw⟩ := exists_writes_punycode ht (.opened b)
      exact ⟨_, encodeAll_of_writes hw, fun h => absurd h hf, fun _ => rfl, by simp⟩
    | domain =>
      obtain ⟨g, hw⟩ := exists_writes_domain hplain (.opened b)
      exact ⟨_, encodeAll_of_writes hw, fun h => absurd h hf, by simp, fun _ => rfl⟩
    | undefined => exact absurd rfl hu
    | _ => exact absurd rfl hf

end DfaTable.Encoding
