import GlueCode.Disk
import GlueCode.Settings.Key
/-! # Settings

Settings are five fields whose values are not checked when they are read, only when they are used.
Everything else a layer of settings gives goes into the field for custom settings. Layers are
dictionaries; a later layer overrides an earlier one key by key, and a custom setting given at the
top of the merged dictionary overrides one given inside its custom field.
-/
namespace GlueCode

/-- What the field for custom settings holds: a dictionary, or any other value as it was given. -/
inductive Custom where
  | dictionary (entries : Customs)
  | other (value : Json)
deriving Repr, Inhabited

namespace Custom

def ofJson : Json → Custom
  | .obj fields => .dictionary (.ofFields fields)
  | value => .other value

def toJson : Custom → Json
  | .dictionary entries => .obj entries.toFields
  | .other value => value

def holds : Custom → Bool
  | .dictionary entries => !entries.isEmpty
  | .other value => value.holds

end Custom

structure Settings where
  outputDirectory : Json := .str "out"
  packageName : Json := .str ""
  licenseComment : Json := .str ""
  maxWorkers : Json := .null
  custom : Custom := .dictionary []
deriving Repr, Inhabited

inductive SettingsError where
  | notFound (path : String)
  | notJsonFile (path : String)
  | invalidJson (path : String)
  | unreadable (path : String)
  | notText
  | integerTooLong
  | notObject (path : String)
  | cannotSave (path : String)
  | unnameable (e : Unnameable)
  /-- A value that should hold pairs is not a collection of collections. -/
  | notPairs
  | notTwo
  | unknownField
deriving DecidableEq, Repr

def SettingsError.message? : SettingsError → Option String
  | .notFound path => some ("Configuration file not found: " ++ path)
  | .notJsonFile path => some ("Configuration file must be JSON: " ++ path)
  | .invalidJson path => some ("Invalid JSON in configuration file " ++ path)
  | .unreadable path => some ("Failed to load configuration file " ++ path)
  | .notObject path => some ("Configuration file must contain a JSON object: " ++ path)
  | .cannotSave path => some ("Failed to save configuration to " ++ path)
  | _ => none

namespace Settings

def fieldNames : List String :=
  ["output_directory", "package_name", "license_comment", "max_workers", "custom"]

def plainFields (s : Settings) : Json.Fields :=
  [("output_directory", s.outputDirectory), ("package_name", s.packageName),
    ("license_comment", s.licenseComment), ("max_workers", s.maxWorkers)]

def toFields (s : Settings) : Json.Fields := s.plainFields ++ [("custom", s.custom.toJson)]

def ofKnown (fields : Json.Fields) : Settings :=
  let field (key : String) (fallback : Json) := (Ledger.get? key fields).getD fallback
  let defaults : Settings := {}
  ⟨field "output_directory" defaults.outputDirectory, field "package_name" defaults.packageName,
    field "license_comment" defaults.licenseComment, field "max_workers" defaults.maxWorkers,
    ((Ledger.get? "custom" fields).map .ofJson).getD defaults.custom⟩

/-- The settings that `fields` spell out; only the five fields may stand there. -/
def ofExact (fields : Json.Fields) : Except SettingsError Settings :=
  if fields.all fun (key, _) => fieldNames.contains key then .ok (ofKnown fields)
  else .error .unknownField

def membersOf : Json → Except SettingsError (List Json)
  | .str s => .ok (s.toList.map fun c => .str (String.singleton c))
  | .arr items => .ok items
  | .obj fields => .ok (fields.map fun (key, _) => .str key)
  | _ => .error .notPairs

def pairOf (item : Json) : Except SettingsError (Key × Json) := do
  match ← membersOf item with
  | [key, value] =>
    match Key.ofJson? key with
    | some key => return (key, value)
    | none => throw .notPairs
  | _ => throw .notTwo

def dictionaryOf : Custom → Except SettingsError Customs
  | .dictionary entries => .ok entries
  | .other value => do return Customs.merge [] (← (← membersOf value).mapM pairOf)

/-- The settings of a merged dictionary. Unknown keys go into the custom settings, after those
that are there. -/
def ofMerged (fields : Json.Fields) : Except SettingsError Settings := do
  let settings := ofKnown fields
  let unknown := fields.filter fun (key, _) => !fieldNames.contains key
  if unknown.isEmpty then return settings
  let custom ← if settings.custom.holds then dictionaryOf settings.custom else pure []
  return { settings with custom := .dictionary (custom.merge (.ofFields unknown)) }

def ofLayers (layers : List Json.Fields) : Except SettingsError Settings :=
  ofMerged (layers.foldl Ledger.merge ({} : Settings).toFields)

/-- The settings as one dictionary, the custom ones put in last. -/
def flattened (s : Settings) : Except SettingsError Customs := do
  return (Customs.ofFields s.plainFields).merge (← dictionaryOf s.custom)

end Settings

end GlueCode
