import GlueCode.Catalogue
import GlueCode.Recorder
import GlueCode.Settings.File
import GlueCode.Wrapper.Basic
/-! # Launching

Generators are launched by name: the name is looked up, the settings are read, and a new generator
is set up and run. The settings are given as overrides or as the path of a file.
-/
namespace GlueCode

inductive Offer where
  | wrapper
  | recorder (o : RecorderOptions)
  | refuser (o : RecorderOptions)
  | incomplete
deriving DecidableEq, Repr, Inhabited

inductive LaunchError where
  | catalogue (e : CatalogueError)
  | badSettings (type : String)
  | settings (e : SettingsError)
  | incomplete
  | run (e : Failure)
deriving DecidableEq, Repr

def standardCatalogue : Catalogue Offer := ⟨[("stub", .wrapper)], [("cpp-stub", "stub")]⟩

def typeWord : Json → String
  | .int _ => "int"
  | .float _ => "float"
  | .bool _ => "bool"
  | _ => "list"

def LaunchError.message? : LaunchError → Option String
  | .catalogue e => some e.message
  | .badSettings type => some ("Invalid config type: <class '" ++ type ++ "'>")
  | .settings e => e.message?
  | .incomplete => none
  | .run e => e.message?

namespace Settings

def ofGiven (disk : Disk) : Json → Traced (Except LaunchError Settings)
  | .null => return wrap (ofLayers [])
  | .obj overrides => return wrap (ofLayers [overrides])
  | .str file => return wrap (← load disk [] file)
  | value => return .error (.badSettings (typeWord value))
where
  wrap : Except SettingsError Settings → Except LaunchError Settings
    | .ok s => .ok s
    | .error e => .error (.settings e)

end Settings

/-- The offer of a name with the settings for it. A file is read before a generator is made, and
overrides are read when it is made. -/
def Catalogue.prepare (c : Catalogue Offer) (disk : Disk) (name : String) (given : Json) :
    Traced (Except LaunchError (Offer × Settings)) := do
  match c.find name, given with
  | .error e, _ => return .error (.catalogue e)
  | .ok .incomplete, .obj _ => return .error .incomplete
  | .ok offer, given =>
    match ← Settings.ofGiven disk given with
    | .error e => return .error e
    | .ok settings =>
      return if offer = .incomplete then .error .incomplete else .ok (offer, settings)

def Backend.launch {σ : Type} (b : Backend σ) (name : String) (api : Api)
    (args : Ledger String String) : Step σ Tally := do
  if ← b.setUp api args then b.generate .null else throw (.setupRefused name)

structure Launched where
  result : Except LaunchError Tally
  disk : Disk
  log : Log

def Backend.launchNew {σ : Type} (b : Backend σ) (settings : Settings) (name : String) (api : Api)
    (args : Ledger String String) (disk : Disk) (log : Log) : Launched :=
  let (result, world) := (b.launch name api args).run ⟨b.generator settings, disk, log⟩
  ⟨match result with
    | .ok tally => .ok tally
    | .error e => .error (.run e), world.disk, world.log⟩

def Catalogue.launch (c : Catalogue Offer) (disk : Disk) (name : String) (given : Json) (api : Api)
    (args : Ledger String String) : Launched :=
  let prepared := c.prepare disk name given
  match prepared.value with
  | .error e => ⟨.error e, disk, prepared.log⟩
  | .ok (.wrapper, settings) => wrapper.launchNew settings name api args disk prepared.log
  | .ok (.recorder o, settings) => (recorder o).launchNew settings name api args disk prepared.log
  | .ok (.refuser o, settings) => (refuser o).launchNew settings name api args disk prepared.log
  | .ok (.incomplete, _) => ⟨.error .incomplete, disk, prepared.log⟩

end GlueCode
