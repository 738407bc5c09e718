import GlueCode.Generator.Basic
import GlueCode.Text.LowerCase
/-! # Recorders

A backend that records what a generator asks of it. It names the class in a text file, and can be
told to skip classes, to give up on them, to put brackets around arguments, and to refuse a setup.
-/
namespace GlueCode

structure RecorderOptions where
  skip : List String := []
  fail : List String := []
  accepts : Bool := true
  brackets : Bool := false
deriving DecidableEq, Repr, Inhabited

structure RecorderState where
  finished : Nat := 0
  args : Option (Ledger String String) := none
deriving DecidableEq, Repr, Inhabited

namespace Recorder

def bracketed (text : String) : String := "[" ++ text ++ "]"

def bracketWriter : ArgumentWriter :=
  ⟨fun f o => bracketed (f.plainNames o), fun f o => bracketed (f.plainDeclarations o)⟩

def classText (o : RecorderOptions) (c : ClassDecl) : Attempt String :=
  if o.fail.contains c.name then throw .interrupted
  else pure ("class " ++ c.qualifiedName ++ "\n")

def finish : Step RecorderState Unit :=
  Step.change fun g => { g with state := { g.state with finished := g.state.finished + 1 } }

end Recorder

def recorder (o : RecorderOptions) : Backend RecorderState where
  initial := {}
  setup args state := ({ state with args := some args }, o.accepts)
  writer := if o.brackets then Recorder.bracketWriter else {}
  fileName? c := if o.skip.contains c.name then none else some (Text.lower c.name ++ ".txt")
  classText _ := Recorder.classText o
  finish := Recorder.finish

def refuser (o : RecorderOptions) : Backend RecorderState :=
  { recorder o with setup := fun _ state => (state, false) }

end GlueCode
