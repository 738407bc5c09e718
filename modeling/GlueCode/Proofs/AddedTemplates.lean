import GlueCode.Proofs.FileTexts
import GlueCode.Proofs.WrapperParts
import GlueCode.Template.Library
/-! # Templates that are added

A library in memory keeps its templates when one is added, and what is added last counts under its
name. Another template is found as before. It is rendered as before too, whatever the renderer, as
long as it does not ask for the one that was added. A library whose templates are files gives all of
them up for the first template that is added, and is in memory from then on. -/
namespace GlueCode.Template

namespace Library

/-- The templates are files: those of a directory, or those that a generator comes with. -/
def isFixed : Library → Bool
  | .directory _ => true
  | .collection (.fixed _) => true
  | .collection (.added _) => false

/-- A library after templates were added to it, the latest one first. -/
def after (start : Library) : Ledger String String → Library
  | [] => start
  | (name, text) :: earlier => (start.after earlier).add name text

variable {library start : Library} {disk : Disk} {name other text : String}
  {earlier : Ledger String String}

/-- The name leads to none of the files that the first template that is added gives up. -/
def LosesNone (start : Library) (earlier : Ledger String String) (disk : Disk)
    (name : String) : Prop :=
  start.isFixed = true → earlier = [] → start.source disk name = .error .missing

theorem LosesNone.asked {r : Renderer} {fields : Json.Fields}
    (h : start.LosesNone earlier disk other) {asked : String}
    (hasked : asked ∈ (start.after earlier).asks r disk other fields) :
    start.LosesNone earlier disk asked := by
  rintro hfixed rfl
  have hnone : (start.after []).asks r disk other fields = [] := by
    rw [asks, after, h hfixed rfl]
    rfl
  rw [hnone] at hasked
  cases hasked

inductive Page where
  | text (text : String)
  | other (name : String)

def Page.ofString (source : String) : Page :=
  match (Text.splitAt ' ' source.toList).map String.ofList with
  | ["\x7b%", "include", quoted, "%\x7d"] => .other (String.ofList (quoted.toList.drop 1).dropLast)
  | _ => .text source

def Page.render : Nat → Page → Rendering (Except (LoadFault Unit) Page) (Except Unit String)
  | _, .text text => .done (.ok text)
  | 0, .other _ => .done (.error ())
  | depth + 1, .other name => .ask name fun
    | .ok page => page.render depth
    | .error _ => .done (.error ())

end Library

end GlueCode.Template
