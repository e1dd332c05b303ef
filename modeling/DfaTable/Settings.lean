import DfaTable.Attempt
import DfaTable.Encoding.Registry

/-!
# DfaTable.Settings

The settings of a run: which values a draft of them is taken from (`Draft.ofValue`) and which
drafts are accepted (`Draft.validate`). The first check that fails decides the error.
-/

namespace DfaTable

open Text

structure LoggingSettings where
  level : Text := "info".toList
  format : Text := "text".toList
deriving DecidableEq, Repr

structure OutputSettings where
  /-- What happens to a table that is there already. -/
  existing : Text := "truncate".toList
  encoding : Text := "utf-8".toList
  /-- Whether a table is replaced as a whole. -/
  isAtomic : Bool := true
deriving DecidableEq, Repr

structure Settings where
  /-- The exit code of a run without both of its paths. -/
  usageExitCode : Int := 0
  logging : LoggingSettings := {}
  output : OutputSettings := {}
  /-- The directory that the settings were read from. -/
  directory : Option Text := none
deriving DecidableEq, Repr

/-- Settings as they are given, which nobody has checked yet. Their texts may hold halves. -/
structure Draft where
  usageExitCode : Int
  level : WideText
  format : WideText
  existing : WideText
  encoding : WideText
  isAtomic : Bool
  directory : Option Text := none
deriving DecidableEq, Repr

/-- Settings as a draft. -/
def Settings.draft (s : Settings) : Draft where
  usageExitCode := s.usageExitCode
  level := s.logging.level.wide
  format := s.logging.format.wide
  existing := s.output.existing.wide
  encoding := s.output.encoding.wide
  isAtomic := s.output.isAtomic
  directory := s.directory

/-- What is wrong with settings, and in which field. -/
structure SettingsError where
  field : Text
  message : Text
deriving DecidableEq, Repr

def SettingsError.write (e : SettingsError) : Text :=
  "Config error in '".toList ++ e.field ++ "': ".toList ++ e.message

namespace Settings

abbrev Check := Attempt SettingsError

/-- The error of settings that have not the form of settings. -/
def shapeError (cause : Text) : SettingsError :=
  { field := "unknown".toList, message := "Failed to parse configuration: ".toList ++ cause }

/-- A value with the parts of a mapping; no other value has parts. -/
def partsOf : Value → Check (List (Value × Value))
  | .map entries => return entries
  | v =>
    throw (shapeError ('\x27' :: v.kindName ++ "' object has no attribute 'get'".toList))

/-- A part, or what stands for it if it is missing. -/
def part (name : String) (usual : Value) (entries : List (Value × Value)) : Value :=
  (Value.get? name.toList entries).getD usual

/-- A section; an absent value is an empty one. -/
def section? (name : String) (entries : List (Value × Value)) : Check (List (Value × Value)) :=
  let v := part name .null entries
  if v.isAbsent then return [] else partsOf v

/-- The text of a value. -/
def textOf (v : Value) : Check WideText :=
  match v.wide? with
  | some t => return t
  | none => throw (shapeError Fault.tooLongToWrite.message)

/-- The integer that a text denotes; `shown` is the text in a message. -/
def integerOfText (t shown : Text) : Check Int :=
  match Numeral.readLoose t with
  | .ok n => return n
  | .error (.tooLong n) => throw (shapeError (Fault.tooManyDigits n).message)
  | .error .malformed =>
    throw (shapeError
      ("invalid literal for int() with base 10: ".toList ++ shown.take 200))

/-- The ASCII character of a byte; what is beyond them is part of no number. -/
def asciiOrOther (b : UInt8) : Char := if b < 128 then Char.ofNat b.toNat else '\uFFFD'

/-- The integer that a value stands for; only an infinite number breaks the run off. -/
def integerOf : Value → Check Int
  | .bool b => return if b then 1 else 0
  | .int n => return n
  | .real x =>
    match Real.truncate x with
    | .ok n => return n
    | .error .notANumber => throw (shapeError "cannot convert float NaN to integer".toList)
    | .error .infinite => Attempt.breakOff .infinite
  | .text t => integerOfText t (quote t)
  | .torn t => integerOfText t.shape t.quote
  | .bytes b => integerOfText (b.map asciiOrOther) (Value.quoteBytes b)
  | v =>
    throw (shapeError
      ("int() argument must be a string, a bytes-like object or a real number, not '".toList ++
        v.kindName ++ ['\x27']))

/-- Whether a key is the name of a section. -/
def isSectionName : Value → Bool
  | .text t => t == "logging".toList || t == "output".toList
  | _ => false

/-- Whether a key is the name of a setting in a section. -/
def isSettingName : Value → Bool
  | .text t =>
    ["level", "format", "existing_output", "encoding", "atomic"].any (·.toList == t)
  | _ => false

end Settings

namespace Draft

open Settings

/-- The settings that a value holds; what is missing has its usual value, and other parts are not
looked at. -/
def ofValue (v : Value) : Check Draft := do
  let entries ← partsOf v
  let logging ← section? "logging" entries
  let level ← textOf (part "level" (.text "info".toList) logging)
  let format ← textOf (part "format" (.text "text".toList) logging)
  let output ← section? "output" entries
  let isAtomic ←
    match part "atomic" (.bool true) output with
    | .bool b => pure b
    | v =>
      match v.quoted? with
      | some t =>
        throw { field := "output.atomic".toList
                message := "Must be true or false, got ".toList ++ t }
      | none => throw (shapeError Fault.tooLongToWrite.message)
  let existing ← textOf (part "existing_output" (.text "truncate".toList) output)
  let encoding ← textOf (part "encoding" (.text "utf-8".toList) output)
  let usageExitCode ← integerOf (part "usage_exit_code" (.int 0) entries)
  return { usageExitCode, level, format, existing, encoding, isAtomic }

def existingPolicies : List Text := ["truncate".toList, "append".toList]

def levels : List Text :=
  ["debug".toList, "info".toList, "warn".toList, "warning".toList, "error".toList]

def formats : List Text := ["json".toList, "text".toList]

/-- A text that is accepted; `message` is what an error says of another one. -/
def checkText (field : String) (message : Text) (accepts : Text → Bool) (t : WideText) :
    Check Text :=
  match t.text?.filter accepts with
  | some word => return word
  | none => throw { field := field.toList, message := message ++ t.quote }

/-- The name of an encoding that text can be written in. -/
def checkEncoding (t : WideText) : Check Text :=
  match t.text? with
  | none => Attempt.breakOff (.halves t)
  | some name =>
    if name.contains '\x00' then Attempt.breakOff .nullCharacter
    else
      match Encoding.named name with
      | .encoding .undefined => Attempt.breakOff (.undefinedEncoding name)
      | .encoding _ => return name
      | .transform | .unknown =>
        throw { field := "output.encoding".toList
                message := "Unknown encoding ".toList ++ quote name }

/-- Whether the exit code is one that a process can have. -/
def checkExitCode (n : Int) : Check Unit :=
  if 0 ≤ n && n ≤ 255 then return ()
  else
    match Numeral.write? n with
    | some t =>
      throw { field := "usage_exit_code".toList
              message := "Must be between 0 and 255, got ".toList ++ t }
    | none => Attempt.breakOff .tooLongToWrite

/-- The settings of a draft, if they can be used. -/
def validate (d : Draft) : Check Settings := do
  let existing ←
    checkText "output.existing_output"
      ("Must be one of ".toList ++ join [',', ' '] existingPolicies ++ ", got ".toList)
      existingPolicies.contains d.existing
  let level ←
    checkText "logging.level" "Unknown log level ".toList (fun t => levels.contains (lower t))
      d.level
  let format ←
    checkText "logging.format" "Must be json or text, got ".toList
      (fun t => formats.contains (lower t)) d.format
  checkExitCode d.usageExitCode
  let encoding ← checkEncoding d.encoding
  return {
    usageExitCode := d.usageExitCode
    logging := { level, format }
    output := { existing, encoding, isAtomic := d.isAtomic }
    directory := d.directory }

end Draft
end DfaTable
