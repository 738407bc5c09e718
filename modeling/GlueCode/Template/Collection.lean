import GlueCode.Path
import GlueCode.Template.Renderer
/-! # Template collections

A collection finds the source of a template by its name. Its templates are fixed, and named by
paths, or are those that were added to it. Nothing can be added to fixed templates: adding to them
makes a new collection with the added template alone.
-/
namespace GlueCode.Template

inductive Collection where
  | fixed (texts : Ledger String String)
  | added (texts : Ledger String String)
deriving Repr, Inhabited

def pathOfName? (name : String) : Option Path :=
  let parts := (Text.splitAt '/' name.toList).map String.ofList
  if parts.contains ".." then none else some ⟨.relative, parts.filter Path.isComponent⟩

namespace Collection

def source (collection : Collection) : Sources := fun name =>
  let found := match collection with
    | .added texts => texts.get? name
    | .fixed texts => (pathOfName? name).bind fun path => texts.get? path.text
  match found with
  | some text => .ok text
  | none => .error .missing

def add (collection : Collection) (name text : String) : Collection :=
  match collection with
  | .added texts => .added (texts.put name text)
  | .fixed _ => .added [(name, text)]

def has (collection : Collection) (name : String) : Except LoadError Bool :=
  plain.isThere (collection.source name)

def render (collection : Collection) (name : String) (fields : Json.Fields) :
    Except Failure String :=
  plain.renderAmong collection.source name (collection.source name) fields

end Collection

end GlueCode.Template
