import GlueCode.Generator.Session
import GlueCode.Output
import GlueCode.Placeholder
import GlueCode.Tally
/-! # Generators

A generator runs over the classes of an interface and asks its hooks about each of them: whether it
asks for code, which file in which directory the code goes into, and what the code is. A hook is a
step like any other: it may look at the generator and the disk, change both, report and fail. Each
class that asks for code and has a file is one task: its text is made and then written unless the
file holds it already. Once all tasks are done the tally is kept and the generator finishes. One
after the other, tasks stop at the first failure. With several workers the failure of the first
failing class counts too; here all tasks are done then, where workers may leave out those that were
not started when the failure came up.

The hooks of a backend answer from the class and the session alone, and change nothing but which
classes were produced; only its last hook, which finishes, is a step of any kind.
-/
namespace GlueCode

structure Generator (σ : Type) extends Session σ where
  produced : List ClassDecl := []
  /-- What the last run that did all its tasks counted. -/
  tally : Tally := {}

/-- A generator among the files it writes, and what it has reported. -/
structure World (σ : Type) where
  generator : Generator σ
  disk : Disk
  log : Log := []

/-- A step keeps what it changed before it failed. -/
abbrev Step (σ α : Type) := ExceptT Failure (StateM (World σ)) α

namespace Step

variable {σ α : Type}

def note (record : Record) : Step σ Unit := modify fun w => { w with log := w.log ++ [record] }

def generator : Step σ (Generator σ) := return (← get).generator

def session : Step σ (Session σ) := return (← get).generator.toSession

def change (f : Generator σ → Generator σ) : Step σ Unit :=
  modify fun w => { w with generator := f w.generator }

def ofExcept (result : Except Failure α) : Step σ α :=
  match result with
  | .ok a => pure a
  | .error e => throw e

def attempt (work : Attempt α) : Step σ α := do
  modify fun w => { w with log := w.log ++ work.run.log }
  ofExcept work.run.value

def close (o : Output) : Step σ Bool := do
  let closing := o.close (← get).disk
  modify fun w => { w with disk := closing.disk, log := w.log ++ closing.log }
  match closing.written with
  | .ok written => return written
  | .error e => throw (.unnameable e)

/-- Does a step whose failure is its result. -/
def outcome (step : Step σ α) : Step σ (Except Failure α) := ExceptT.lift step.run

def outcomes {β : Type} (f : β → Step σ α) : List β → Step σ (List (Except Failure α))
  | [] => return []
  | b :: rest => do return (← outcome (f b)) :: (← outcomes f rest)

end Step

structure Hooks (σ : Type) where
  wants : ClassDecl → Step σ Bool
  fileName? : ClassDecl → Step σ (Option String)
  directory : ClassDecl → Step σ String
  classText : ClassDecl → Step σ String
  finish : Step σ Unit

namespace Hooks

variable {σ : Type} (h : Hooks σ)

def output? (c : ClassDecl) : Step σ (Option Output) := do
  if !(← h.wants c) then return none
  match ← h.fileName? c with
  | none => return none
  | some fileName =>
    Step.note (debug ("generating: " ++ fileName))
    let directory ← Step.ofExcept (← Step.session).outputDirectory
    let inner ← h.directory c
    let text ← h.classText c
    return some { path := directory / Path.ofString inner / Path.ofString fileName, text }

def classFile (c : ClassDecl) : Step σ Tally := do
  match ← h.output? c with
  | none => return {}
  | some o => return Tally.one (← Step.close o)

def classFiles (parallel : Bool) (classes : List ClassDecl) : Step σ (List Tally) :=
  if parallel then do
    let results ← Step.outcomes h.classFile classes
    Step.ofExcept (results.mapM id)
  else classes.mapM h.classFile

def conclude (tally : Tally) : Step σ Tally := do
  Step.change fun g => { g with tally }
  h.finish
  Step.note (info ("Generated " ++ tally.generated.repr ++ " classes, " ++ tally.written.repr
    ++ " files written"))
  return tally

def generate (workers : Json) : Step σ Tally := do
  let s ← Step.session
  let api ← Step.ofExcept s.requireApi
  let parallel ← Step.ofExcept (s.isParallel workers)
  h.conclude (Tally.sum (← h.classFiles parallel api.classes))

end Hooks

structure Backend (σ : Type) where
  initial : σ
  templates : Template.Collection := .added []
  options : Ledger String String := []
  setup : Ledger String String → σ → σ × Bool
  writer : ArgumentWriter := {}
  fileName? : ClassDecl → Option String
  classText : Session σ → ClassDecl → Attempt String
  finish : Step σ Unit

namespace Backend

variable {σ : Type} (b : Backend σ)

def generator (settings : Settings) : Generator σ :=
  { settings, templates := b.templates, state := b.initial }

def setUp (api : Api) (args : Ledger String String) : Step σ Bool := do
  if api.package?.isNone then Step.note (warning "Couldn't find the package name!!")
  let (state, accepted) := b.setup args (← Step.generator).state
  Step.change fun g =>
    { g with api := some api, foundPackage := api.package?.getD "", state, produced := [] }
  return accepted

def produce (c : ClassDecl) : Step σ String := do
  let text ← Step.attempt (b.classText (← Step.session) c)
  Step.change fun g => { g with produced := c :: g.produced }
  return text

def hooks : Hooks σ where
  wants c := pure c.entry.wanted.target
  fileName? c := pure (b.fileName? c)
  directory c := do Step.ofExcept ((← Step.session).subDirectory c.package)
  classText := b.produce
  finish := b.finish

def classFile : ClassDecl → Step σ Tally := b.hooks.classFile

def classFiles : Bool → List ClassDecl → Step σ (List Tally) := b.hooks.classFiles

def conclude : Tally → Step σ Tally := b.hooks.conclude

def generate : Json → Step σ Tally := b.hooks.generate

end Backend

end GlueCode
