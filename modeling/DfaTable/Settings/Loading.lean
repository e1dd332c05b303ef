import DfaTable.Files.Access
import DfaTable.Files.Reading
import DfaTable.Settings
import DfaTable.Yaml

/-!
# DfaTable.Settings.Loading

Settings are read from a YAML file. One that is missing from its directory is no error: then all
settings are the usual ones.
-/

namespace DfaTable

open Text

namespace Settings

/-- The objects that the bytes of a file stand for. -/
def graphOfBytes (bytes : List UInt8) : Check Yaml.Graph :=
  let r := Files.readText bytes
  match Yaml.read r.text (r.flaw.map fun b => .fault (.undecodable b)) with
  | .ok g => return g
  | .error .malformed =>
    throw { field := "yaml".toList, message := "Failed to parse YAML".toList }
  | .error (.fault f) => Attempt.breakOff f

/-- A section as far as settings are taken from it: its values are shown if it is a mapping. -/
def sectionView (g : Yaml.Graph) (id : Yaml.NodeId) : Value :=
  match g.entries? id with
  | some entries =>
    .map ((entries.filter fun e => isSettingName e.1).map fun (k, v) => (k, g.value v))
  | none => g.outline id

/-- A mapping as far as settings are taken from it. -/
def view (g : Yaml.Graph) (entries : List (Value × Yaml.NodeId)) : Value :=
  .map (entries.map fun (k, v) => (k, if isSectionName k then sectionView g v else g.outline v))

/-- The settings in the bytes of a file. -/
def ofBytes (bytes : List UInt8) : Check Draft := do
  let g ← graphOfBytes bytes
  match g.entries? g.root with
  | some entries => Draft.ofValue (view g entries)
  | none =>
    if (g.outline g.root).isAbsent then Draft.ofValue (.map [])
    else
      throw { field := "yaml".toList
              message := "Top level of the configuration must be a mapping".toList }

/-- Work that ends in an attempt: a fault breaks it off, an error does not. -/
def settle {α : Type} (a : Check α) : Work (Except SettingsError α) :=
  match a.run with
  | .ok outcome => return outcome
  | .error f => throw f

/-- The settings in a file. -/
def ofFile (p : Path) : Work (Except SettingsError Draft) := do
  if !(← Files.isThere p) then
    return .error { field := "path".toList
                    message := "Configuration file not found: ".toList ++ p.write }
  tryCatch
    (do settle (ofBytes (← Files.read p)))
    fun f => do
      match f with
      | .file t =>
        return .error { field := "file".toList
                        message := "Failed to read config file: ".toList ++ t.message }
      | f => throw f

/-- Where settings are looked for unless something else is said. -/
def usualDirectory : Path := .ofText "config".toList

def fileName : Text := "defaults.yaml".toList

/-- The settings of a directory, if they can be used. -/
def load (directory : Path) : Work (Except SettingsError Settings) := do
  let file := directory.child fileName
  let found ←
    if ← Files.isThere file then
      pure ((← ofFile file).map fun d => { d with directory := some directory.write })
    else pure (.ok ({} : Settings).draft)
  match found with
  | .error e => return .error e
  | .ok d => settle d.validate

end Settings
end DfaTable
