import GlueCode.Disk
import GlueCode.Log
/-! # Output files

An output gathers text for one file and writes it when it is closed, unless the file holds that text
already. Line endings do not count in the comparison. The directories the file goes into are made if
need be. Closing says whether the file was written, and only the first time does anything.
-/
namespace GlueCode

structure Output where
  path : Path
  text : String := ""
  finished : Bool := false
deriving Repr, Inhabited

structure Closing where
  disk : Disk
  log : Log := []
  written : Except Unnameable Bool

def Disk.prepareParent (disk : Disk) (path : Path) : Closing :=
  let directory := path.parent
  match disk.has directory with
  | .error e => { disk, written := .error e }
  | .ok true => { disk, written := .ok true }
  | .ok false =>
    if !directory.isNameable then { disk, written := .error .nullCharacter }
    else
      match disk.makeDirectories directory with
      | (disk, true) => { disk, written := .ok true }
      | (disk, false) =>
        let shown := (disk.absolute directory).text
        { disk, written := .ok false
          log := [(warning ("unable to create directory '" ++ shown ++ "'")).onRefusal] }

namespace Output

def append (o : Output) (text : String) : Output := { o with text := o.text ++ text }

/-- What is known of the file before it is written. -/
inductive Before where
  | absent
  | unchanged
  | different
  | unreadable
deriving DecidableEq, Repr

def before (o : Output) (disk : Disk) : Except Unnameable Before := do
  if !(← disk.has o.path) then return .absent
  match disk.read o.path with
  | .error _ => return .unreadable
  | .ok bytes =>
    match String.fromUTF8? bytes with
    | none => return .unreadable
    | some old =>
      return if Text.unifyNewlines old.toList = o.text.toList then .unchanged else .different

def store (o : Output) (disk : Disk) : Closing :=
  let parent := disk.prepareParent o.path
  match parent.written with
  | .ok true =>
    if !o.path.isNameable then { parent with written := .error .nullCharacter }
    else
      match parent.disk.write o.path o.text.toUTF8 with
      | .ok disk => { parent with disk, written := .ok true }
      | .error _ =>
        let refusal := (warning ("failed to write '" ++ o.path.text ++ "'")).onRefusal
        { parent with written := .ok false, log := parent.log ++ [refusal] }
  | _ => parent

def close (o : Output) (disk : Disk) : Closing :=
  if o.finished then { disk, written := .ok false }
  else
    match o.before disk with
    | .error e => { disk, written := .error e }
    | .ok .unchanged =>
      { disk, written := .ok false, log := [debug ("unchanged: " ++ o.path.text)] }
    | .ok .unreadable =>
      let refusal := (debug ("rewriting unreadable file " ++ o.path.text)).onRefusal
      let stored := o.store disk
      { stored with log := refusal :: stored.log }
    | _ => o.store disk

def closed (o : Output) : Output := { o with finished := true }

theorem close_closed (o : Output) (disk : Disk) :
    o.closed.close disk = { disk, written := .ok false } := rfl

end Output

end GlueCode
