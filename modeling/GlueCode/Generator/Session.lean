import GlueCode.Disk
import GlueCode.NamePattern
import GlueCode.Sample.Search
import GlueCode.Settings.Basic
import GlueCode.Template.Collection
/-! # Sessions

A session is what a generator works from: its settings, the interface it was set up with, its
templates, and what its backend keeps. Settings are checked here, when they are used.
-/
namespace GlueCode

inductive Failure where
  | notSetUp
  | setupRefused (name : String)
  | template (name : String) (e : Template.Failure)
  | header (e : PatternError)
  | packageNotText
  | directoryNotText
  | workersNotNumber
  | unknownType
  | snippetNotText
  | unnameable (e : Unnameable)
  /-- The backend gave up in the middle of a class. -/
  | interrupted
deriving DecidableEq, Repr

def Failure.message? : Failure → Option String
  | .notSetUp => some "Generator used before setup()"
  | .setupRefused name => some ("Setup of generator '" ++ name ++ "' failed")
  | .template name _ => some (Template.failureMessage name)
  | _ => none

abbrev Attempt (α : Type) := ExceptT Failure Traced α

def Attempt.ofExcept {α : Type} (result : Except Failure α) : Attempt α := ExceptT.mk (pure result)

/-- Work that only an unknown type can stop. -/
def Attempt.ofTraced {α : Type} (work : Traced α) : Attempt α :=
  ExceptT.mk ⟨if work.stopped then .error .unknownType else .ok work.value, work.log, false⟩

namespace Attempt

variable {α β : Type}

@[simp] theorem value_pure (a : α) : (pure a : Attempt α).run.value = .ok a := rfl

@[simp] theorem value_ofExcept (result : Except Failure α) :
    (ofExcept result).run.value = result := rfl

theorem value_ofTraced_ok {work : Traced α} {a : α} :
    (ofTraced work).run.value = .ok a ↔ work.stopped = false ∧ work.value = a := by
  cases h : work.stopped <;> simp [ofTraced, h]

theorem value_bind_ok {x : Attempt α} {f : α → Attempt β} {b : β} :
    (x >>= f).run.value = .ok b ↔ ∃ a, x.run.value = .ok a ∧ (f a).run.value = .ok b := by
  rw [ExceptT.run_bind, Traced.value_bind]
  cases x.run.value <;> simp

end Attempt

structure Session (σ : Type) where
  settings : Settings
  api : Option Api := none
  /-- The package of types that the interface was found to have. -/
  foundPackage : String := ""
  templates : Template.Collection
  state : σ

namespace Session

variable {σ : Type}

def requireApi (s : Session σ) : Except Failure Api :=
  match s.api with
  | some api => .ok api
  | none => .error .notSetUp

def package (s : Session σ) : Json :=
  if s.settings.packageName.holds then s.settings.packageName else .str s.foundPackage

def packageText (s : Session σ) : Except Failure String :=
  match s.package with
  | .str text => .ok text
  | _ => .error .packageNotText

def moduleName (s : Session σ) : Except Failure String := s.packageText.map Text.moduleOf

def outputDirectory (s : Session σ) : Except Failure Path :=
  match s.settings.outputDirectory with
  | .str text => .ok (Path.ofString text)
  | _ => .error .directoryNotText

/-- The directory of a package, below the output directory; the session's package stands in for an
empty one. -/
def subDirectory (s : Session σ) (package : String) : Except Failure String :=
  if package.isEmpty then s.packageText.map (Text.packageDirectory package)
  else .ok (Text.packageDirectory package "")

def classPath (s : Session σ) (c : ClassDecl) (fileName : String) : Except Failure Path := do
  let directory ← s.outputDirectory
  let inner ← s.subDirectory c.package
  return directory / Path.ofString inner / Path.ofString fileName

def sample (s : Session σ) (target : Target) : Attempt (Option String) := do
  let api ← Attempt.ofExcept s.requireApi
  let found ← Attempt.ofTraced (api.sample target)
  return found.map Sample.text

def conversions (s : Session σ) (entry : Entry) : Except Failure (List Callable) := do
  if entry.isValue then return (← s.requireApi).implicitConversions entry
  return []

def render (s : Session σ) (name : String) (fields : Json.Fields) : Except Failure String :=
  match s.templates.render name fields with
  | .ok text => .ok text
  | .error e => .error (.template name e)

/-- Whether code has to be made by several workers. A number of workers given for the run counts
before the one in the settings, and only more than one is several. -/
def isParallel (s : Session σ) (given : Json) : Except Failure Bool :=
  match (match given with | .null => s.settings.maxWorkers | _ => given) with
  | .int n => .ok (n > 1)
  | .float x => .ok x.exceedsOne
  | .bool _ => .ok false
  | value => if value.holds then .error .workersNotNumber else .ok false

end Session

end GlueCode
