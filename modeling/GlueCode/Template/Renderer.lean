import GlueCode.Template.Render
/-! # Renderers

A renderer reads the source of a template and renders what it has read for given fields. While it
renders, it may ask for other templates by their names. These are looked up among the templates that
there are at that time, and what was found there decides how the rendering goes on.

The plain renderer has the language of the modules beside this one, which is part of a larger one:
texts, printed expressions, branches and loops. Nothing in it asks for another template.
-/
namespace GlueCode.Template

inductive SourceError where
  | missing
  /-- The bytes of the file are no text. -/
  | notText
deriving DecidableEq, Repr

/-- Why a template cannot be loaded; `ε` is what reading a source may run into. -/
inductive LoadFault (ε : Type) where
  | missing
  | notText
  | unreadable (e : ε)
deriving DecidableEq, Repr

def SourceError.fault {ε : Type} : SourceError → LoadFault ε
  | .missing => .missing
  | .notText => .notText

inductive FailureOf (ε ρ : Type) where
  | load (e : LoadFault ε)
  | render (e : ρ)
deriving DecidableEq, Repr

abbrev LoadError := LoadFault SyntaxError

abbrev Failure := FailureOf SyntaxError RenderError

/-- The way to a result `β` that asks for templates by name and is told `α`. -/
inductive Rendering (α β : Type) where
  | done (result : β)
  | ask (name : String) (next : α → Rendering α β)

namespace Rendering

variable {α β : Type}

def run (find : String → α) : Rendering α β → β
  | done result => result
  | ask name next => (next (find name)).run find

def asked (find : String → α) : Rendering α β → List String
  | done _ => []
  | ask name next => name :: (next (find name)).asked find

end Rendering

structure Renderer where
  Read : Type
  ReadError : Type
  RenderError : Type
  read : String → Except ReadError Read
  /-- Renders what was read, with the name that it goes by, if any. -/
  render : Option String → Read → Json.Fields →
    Rendering (Except (LoadFault ReadError) Read) (Except RenderError String)

def plain : Renderer where
  Read := Template
  ReadError := SyntaxError
  RenderError := RenderError
  read text := Template.read text.toList
  render name template fields := .done (template.render name fields)

instance : DecidableEq plain.ReadError := inferInstanceAs (DecidableEq SyntaxError)

instance : DecidableEq plain.RenderError := inferInstanceAs (DecidableEq RenderError)

abbrev Sources := String → Except SourceError String

namespace Renderer

variable (r : Renderer)

def load (source : Except SourceError String) : Except (LoadFault r.ReadError) r.Read :=
  match source with
  | .error e => .error e.fault
  | .ok text =>
    match r.read text with
    | .error e => .error (.unreadable e)
    | .ok template => .ok template

/-- Whether there is a template. One that is there and cannot be read is an error. -/
def isThere (source : Except SourceError String) : Except (LoadFault r.ReadError) Bool :=
  match r.load source with
  | .ok _ => .ok true
  | .error .missing => .ok false
  | .error e => .error e

def renderAmong (sources : Sources) (name : Option String) (source : Except SourceError String)
    (fields : Json.Fields) : Except (FailureOf r.ReadError r.RenderError) String :=
  match r.load source with
  | .error e => .error (.load e)
  | .ok template =>
    match (r.render name template fields).run fun other => r.load (sources other) with
    | .error e => .error (.render e)
    | .ok text => .ok text

def asks (sources : Sources) (name : Option String) (source : Except SourceError String)
    (fields : Json.Fields) : List String :=
  match r.load source with
  | .error _ => []
  | .ok template => (r.render name template fields).asked fun other => r.load (sources other)

end Renderer

theorem load_plain {source : List Char} {template : Template}
    (h : Template.read source = .ok template) :
    plain.load (.ok (String.ofList source)) = .ok template := by
  simp only [Renderer.load, plain, String.toList_ofList, h]

def renderSource (name : Option String) (source : Except SourceError String)
    (fields : Json.Fields) : Except Failure String :=
  plain.renderAmong (fun _ => .error .missing) name source fields

def failureMessage (name : String) : String := "Failed to render template " ++ name

end GlueCode.Template
