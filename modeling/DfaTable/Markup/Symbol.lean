import DfaTable.Text

/-!
# DfaTable.Markup.Symbol

What markup is read from: characters, and bytes that belong to no character. `Reading` is what
every reader of this folder gives; `length_after?_le` says that what stands behind a mark is no
longer than what begins with it.
-/

namespace DfaTable.Markup

/-- A character, or a byte that belongs to none. -/
inductive Symbol where
  | char (c : Char)
  | stray
deriving DecidableEq, Repr

/-- What has still to be read. -/
abbrev Input := List Symbol

/-- The character that stands for whatever is none. -/
def replacement : Char := '\uFFFD'

/-- A character that may stand in markup: no control character but tab and the line ends, and none
of the two last code points of the basic plane. -/
def isChar (c : Char) : Bool :=
  let n := c.toNat
  n == 9 || n == 10 || n == 13 || (32 ≤ n && n ≤ 0xFFFD) || 0x10000 ≤ n

/-- The blanks of markup. -/
def isSpace (c : Char) : Bool := c == ' ' || c == '\n' || c == '\t' || c == '\r'

namespace Symbol

/-- The number of bytes. -/
def width : Symbol → Nat
  | char c => c.utf8Size
  | stray => 1

/-- Whether this is a character with a property. -/
def holds (p : Char → Bool) : Symbol → Bool
  | char c => p c
  | stray => false

end Symbol

def inputOf (t : Text) : Input := t.map .char

/-- The number of bytes. -/
def byteCount (t : Input) : Nat := (t.map Symbol.width).foldl (· + ·) 0

/-- What follows a mark at the beginning. -/
def after? : Text → Input → Option Input
  | [], t => some t
  | _ :: _, [] => none
  | m :: mark, s :: t => if s = .char m then after? mark t else none

def startsWith (mark : String) (t : Input) : Bool := (after? mark.toList t).isSome

/-- Whether a mark stands anywhere. -/
def hasMark (mark : String) : Input → Bool
  | [] => mark.isEmpty
  | s :: t => startsWith mark (s :: t) || hasMark mark t

def startsWithSpace (t : Input) : Bool := t.head?.any (·.holds isSpace)

def skipSpaces (t : Input) : Input := t.dropWhile (·.holds isSpace)

theorem length_skipSpaces_le (t : Input) : (skipSpaces t).length ≤ t.length :=
  (List.dropWhile_sublist _).length_le

theorem length_after?_le {mark : Text} {t rest : Input} (h : after? mark t = some rest) :
    rest.length ≤ t.length := by
  induction mark generalizing t with
  | nil => exact Nat.le_of_eq (congrArg List.length (Option.some.inj h).symm)
  | cons m mark ih =>
    cases t with
    | nil => cases h
    | cons s t =>
      simp only [after?] at h
      split at h
      · exact Nat.le_succ_of_le (ih h)
      · cases h

/-- What reading a part of a document gives: its value, what follows it, and whether it keeps the
rules of markup. -/
structure Reading (α : Type) where
  value : α
  rest : Input
  isSound : Bool := true

namespace Reading

/-- Puts a character before a text. -/
def cons (c : Char) (isSound : Bool) (r : Reading Text) : Reading Text :=
  { r with value := c :: r.value, isSound := isSound && r.isSound }

/-- Puts a character before a text, if there is one. -/
def push (c : Char) (isSound : Bool) (r : Reading (Option Text)) : Reading (Option Text) :=
  { r with value := r.value.map (c :: ·), isSound := isSound && r.isSound }

end Reading
end DfaTable.Markup
