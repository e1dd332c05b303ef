import DfaTable.Text

/-!
# DfaTable.Encoding.Utf8

UTF-8: how a character is written, what the first character of some bytes is, and what is wrong
with bytes that are none. Main statement: `decode_encode`, which reads back what is written.
-/

namespace DfaTable.Encoding.Utf8

/-- The continuation byte for the last six bits of a number. -/
def tail (n : Nat) : UInt8 := UInt8.ofNat (0x80 + n % 64)

/-- The bytes of a character. -/
def encodeChar (c : Char) : List UInt8 :=
  let n := c.toNat
  if n < 0x80 then [UInt8.ofNat n]
  else if n < 0x800 then [UInt8.ofNat (0xC0 + n / 64), tail n]
  else if n < 0x10000 then [UInt8.ofNat (0xE0 + n / 4096), tail (n / 64), tail n]
  else [UInt8.ofNat (0xF0 + n / 262144), tail (n / 4096), tail (n / 64), tail n]

def encode (t : Text) : List UInt8 := t.flatMap encodeChar

/-- Why bytes begin with no character. -/
inductive Flaw where
  | start
  | continuation
  | ending
deriving DecidableEq, Repr

def Flaw.message : Flaw → Text
  | .start => "invalid start byte".toList
  | .continuation => "invalid continuation byte".toList
  | .ending => "unexpected end of data".toList

/-- What the first byte of a longer sequence asks for: how many bytes follow, the smallest and the
largest that may come next, and the bits that it carries itself. -/
structure Lead where
  following : Nat
  low : Nat
  high : Nat
  bits : Nat

def lead? (b : Nat) : Option Lead :=
  if b < 0xC2 then none
  else if b < 0xE0 then some ⟨1, 0x80, 0xBF, b - 0xC0⟩
  else if b = 0xE0 then some ⟨2, 0xA0, 0xBF, 0⟩
  else if b = 0xED then some ⟨2, 0x80, 0x9F, 0xD⟩
  else if b < 0xF0 then some ⟨2, 0x80, 0xBF, b - 0xE0⟩
  else if b = 0xF0 then some ⟨3, 0x90, 0xBF, 0⟩
  else if b < 0xF4 then some ⟨3, 0x80, 0xBF, b - 0xF0⟩
  else if b = 0xF4 then some ⟨3, 0x80, 0x8F, 4⟩
  else none

/-- The number that continuation bytes lead to, with what was read so far; or the flaw and how
many of them were good. -/
def continued (bits : Nat) (low high good : Nat) : Nat → List UInt8 → Except (Flaw × Nat) Nat
  | 0, _ => .ok bits
  | _ + 1, [] => .error (.ending, good)
  | following + 1, b :: rest =>
    if low ≤ b.toNat && b.toNat ≤ high then
      continued (bits * 64 + b.toNat % 64) 0x80 0xBF (good + 1) following rest
    else .error (.continuation, good)

/-- The first character and how many bytes follow its first one; or what is wrong and how many
bytes after the first one belong to it. -/
def first (b : UInt8) (rest : List UInt8) : Except (Flaw × Nat) (Char × Nat) :=
  if b.toNat < 0x80 then .ok (Char.ofNat b.toNat, 0)
  else
    match lead? b.toNat with
    | none => .error (.start, 0)
    | some l => (continued l.bits l.low l.high 0 l.following rest).map (Char.ofNat ·, l.following)

/-- Where and why bytes are no text: the positions of the first and the last wrong byte. -/
structure Broken where
  flaw : Flaw
  firstAt : Nat
  lastAt : Nat
  /-- The first wrong byte. -/
  byte : UInt8
deriving DecidableEq, Repr

/-- The text of bytes that begin at a position. -/
def decodeFrom (position : Nat) : List UInt8 → Except Broken Text
  | [] => .ok []
  | b :: rest =>
    match first b rest with
    | .ok (c, n) => (decodeFrom (position + n + 1) (rest.drop n)).map (c :: ·)
    | .error (flaw, n) => .error ⟨flaw, position, position + n, b⟩
termination_by bytes => bytes.length
decreasing_by exact Nat.lt_succ_of_le (List.drop_sublist _ _).length_le

/-- The text of bytes. -/
def decode (bytes : List UInt8) : Except Broken Text := decodeFrom 0 bytes

theorem toNat_tail (n : Nat) : (tail n).toNat = 0x80 + n % 64 := by
  simp only [tail, UInt8.toNat_ofNat']
  omega

/-- A good continuation byte adds its six bits. -/
theorem continued_tail {bits low high good following : Nat} {n : Nat} {rest : List UInt8}
    (hl : low ≤ 0x80 + n % 64) (hh : 0x80 + n % 64 ≤ high) :
    continued bits low high good (following + 1) (tail n :: rest) =
      continued (bits * 64 + n % 64) 0x80 0xBF (good + 1) following rest := by
  have hm : (0x80 + n % 64) % 64 = n % 64 := by omega
  simp [continued, toNat_tail, hl, hh, hm]

theorem toNat_isScalar (c : Char) : c.toNat < 0xD800 ∨ (0xDFFF < c.toNat ∧ c.toNat < 0x110000) := by
  have := c.valid
  simpa [UInt32.isValidChar, Nat.isValidChar] using this

/-- The bytes of a character are read back, whatever follows them. -/
theorem first_encodeChar (c : Char) (rest : List UInt8) :
    ∃ b more, encodeChar c = b :: more ∧ first b (more ++ rest) = .ok (c, more.length) := by
  have hs := toNat_isScalar c
  have hc : Char.ofNat c.toNat = c := Char.ofNat_toNat c
  simp only [encodeChar]
  split
  · rename_i h
    refine ⟨_, [], rfl, ?_⟩
    have hb : (UInt8.ofNat c.toNat).toNat = c.toNat := by
      simp only [UInt8.toNat_ofNat']; omega
    simp [first, hb, h, hc]
  · split
    · rename_i h1 h2
      refine ⟨_, [tail c.toNat], rfl, ?_⟩
      have hb : (UInt8.ofNat (0xC0 + c.toNat / 64)).toNat = 0xC0 + c.toNat / 64 := by
        simp only [UInt8.toNat_ofNat']; omega
      have hl : lead? (0xC0 + c.toNat / 64) = some ⟨1, 0x80, 0xBF, c.toNat / 64⟩ := by
        unfold lead?
        rw [if_neg (by omega), if_pos (by omega), Nat.add_sub_cancel_left]
      have hf : ¬ 0xC0 + c.toNat / 64 < 0x80 := by omega
      have he : c.toNat / 64 * 64 + c.toNat % 64 = c.toNat := by omega
      simp only [first, hb, if_neg hf, hl, List.cons_append, List.nil_append]
      rw [continued_tail (by omega) (by omega)]
      simp [continued, he, hc, Except.map]
    · split
      · rename_i h1 h2 h3
        refine ⟨_, [tail (c.toNat / 64), tail c.toNat], rfl, ?_⟩
        have hb : (UInt8.ofNat (0xE0 + c.toNat / 4096)).toNat = 0xE0 + c.toNat / 4096 := by
          simp only [UInt8.toNat_ofNat']; omega
        have hf : ¬ 0xE0 + c.toNat / 4096 < 0x80 := by omega
        have he : (c.toNat / 4096 * 64 + c.toNat / 64 % 64) * 64 + c.toNat % 64 = c.toNat := by
          omega
        have hl : ∃ low high, lead? (0xE0 + c.toNat / 4096) =
            some ⟨2, low, high, c.toNat / 4096⟩ ∧ low ≤ 0x80 + c.toNat / 64 % 64 ∧
              0x80 + c.toNat / 64 % 64 ≤ high := by
          unfold lead?
          rw [if_neg (by omega), if_neg (by omega)]
          split
          · have hq : c.toNat / 4096 = 0 := by omega
            exact ⟨_, _, by rw [hq], by omega, by omega⟩
          · split
            · have hq : c.toNat / 4096 = 0xD := by omega
              exact ⟨_, _, by rw [hq], by omega, by omega⟩
            · rw [if_pos (by omega), Nat.add_sub_cancel_left]
              exact ⟨_, _, rfl, by omega, by omega⟩
        obtain ⟨low, high, hl, h4, h5⟩ := hl
        simp only [first, hb, if_neg hf, hl, List.cons_append, List.nil_append]
        rw [continued_tail h4 h5, continued_tail (by omega) (by omega)]
        simp [continued, he, hc, Except.map]
      · rename_i h1 h2 h3
        refine ⟨_, [tail (c.toNat / 4096), tail (c.toNat / 64), tail c.toNat], rfl, ?_⟩
        have hb : (UInt8.ofNat (0xF0 + c.toNat / 262144)).toNat = 0xF0 + c.toNat / 262144 := by
          simp only [UInt8.toNat_ofNat']; omega
        have hf : ¬ 0xF0 + c.toNat / 262144 < 0x80 := by omega
        have he : ((c.toNat / 262144 * 64 + c.toNat / 4096 % 64) * 64 + c.toNat / 64 % 64) * 64 +
            c.toNat % 64 = c.toNat := by omega
        have hl : ∃ low high, lead? (0xF0 + c.toNat / 262144) =
            some ⟨3, low, high, c.toNat / 262144⟩ ∧ low ≤ 0x80 + c.toNat / 4096 % 64 ∧
              0x80 + c.toNat / 4096 % 64 ≤ high := by
          unfold lead?
          rw [if_neg (by omega), if_neg (by omega), if_neg (by omega), if_neg (by omega),
            if_neg (by omega)]
          split
          · have hq : c.toNat / 262144 = 0 := by omega
            exact ⟨_, _, by rw [hq], by omega, by omega⟩
          · split
            · rw [Nat.add_sub_cancel_left]
              exact ⟨_, _, rfl, by omega, by omega⟩
            · have hq : c.toNat / 262144 = 4 := by omega
              rw [if_pos (by omega)]
              exact ⟨_, _, by rw [hq], by omega, by omega⟩
        obtain ⟨low, high, hl, h4, h5⟩ := hl
        simp only [first, hb, if_neg hf, hl, List.cons_append, List.nil_append]
        rw [continued_tail h4 h5, continued_tail (by omega) (by omega),
          continued_tail (by omega) (by omega)]
        simp [continued, he, hc, Except.map]

theorem decodeFrom_encode (position : Nat) (t : Text) :
    decodeFrom position (encode t) = .ok t := by
  induction t generalizing position with
  | nil => simp [encode, decodeFrom]
  | cons c rest ih =>
    obtain ⟨b, more, he, hf⟩ := first_encodeChar c (encode rest)
    have ht : encode (c :: rest) = b :: (more ++ encode rest) := by simp [encode, he]
    rw [ht, decodeFrom, hf]
    simp [ih, Except.map]

/-- What is written is read back. -/
theorem decode_encode (t : Text) : decode (encode t) = .ok t := decodeFrom_encode 0 t

end DfaTable.Encoding.Utf8
