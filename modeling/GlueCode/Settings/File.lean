import GlueCode.Json.Reader
import GlueCode.Log
import GlueCode.Settings.Basic
import GlueCode.Text.LowerCase
/-! # Settings in files

A settings file holds one JSON object and has the suffix `.json`, in any case. Loading checks that
the file is there, then its suffix, then what it holds. Saving writes the flattened settings.
-/
namespace GlueCode.Settings

def readFile (disk : Disk) (path : Path) : Except SettingsError Json.Fields :=
  let shown := path.text
  match disk.has path with
  | .error e => .error (.unnameable e)
  | .ok false => .error (.notFound shown)
  | .ok true =>
  if Text.lower path.suffix ≠ ".json" then .error (.notJsonFile shown)
  else
    match disk.read path with
    | .error _ => .error (.unreadable shown)
    | .ok bytes =>
      match String.fromUTF8? bytes with
      | none => .error .notText
      | some text =>
        match Json.read text with
        | .error .malformed => .error (.invalidJson shown)
        | .error .integerTooLong => .error .integerTooLong
        | .ok (.obj fields) => .ok fields
        | .ok _ => .error (.notObject shown)

/-- The defaults, overridden by a file, if one is named, and then by `overrides`. -/
def load (disk : Disk) (overrides : Json.Fields) (file : String) :
    Traced (Except SettingsError Settings) :=
  if file = "" then pure (ofLayers [overrides])
  else
    let path := Path.ofString file
    match readFile disk path with
    | .error e => pure (.error e)
    | .ok fields => do
      Traced.note (debug ("Loaded configuration from " ++ path.text))
      pure (ofLayers [fields, overrides])

def save (s : Settings) (disk : Disk) (file : String) : Except SettingsError Disk := do
  let fields ← s.flattened
  let path := Path.ofString file
  if !path.isNameable then throw (.unnameable .nullCharacter)
  match disk.write path (Json.pretty (.obj fields.toFields)).toUTF8 with
  | .ok disk => return disk
  | .error _ => throw (.cannotSave path.text)

end GlueCode.Settings
