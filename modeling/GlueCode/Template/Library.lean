import GlueCode.Disk
import GlueCode.Template.Collection
/-! # Template libraries

A library is a collection, or a directory whose files are templates named by their paths. Adding a
template to a directory makes it a collection of that template alone.
-/
namespace GlueCode.Template

inductive Library where
  | collection (c : Collection)
  | directory (path : Path)
deriving Repr, Inhabited

namespace Library

def ofPath (disk : Disk) (path : Path) : Except Unnameable Library := do
  return if ← disk.has path then .directory path else .collection (.added [])

def source (library : Library) (disk : Disk) : Sources := fun name =>
  match library with
  | .collection c => c.source name
  | .directory path =>
    match (pathOfName? name).bind fun inner => disk.node? (path / inner) with
    | some (.file bytes) =>
      match String.fromUTF8? bytes with
      | some text => .ok text
      | none => .error .notText
    | _ => .error .missing

def add (library : Library) (name text : String) : Library :=
  match library with
  | .collection c => .collection (c.add name text)
  | .directory _ => .collection (.added [(name, text)])

def finds (library : Library) (r : Renderer) (disk : Disk) (name : String) :
    Except (LoadFault r.ReadError) Bool :=
  r.isThere (library.source disk name)

def renders (library : Library) (r : Renderer) (disk : Disk) (name : String)
    (fields : Json.Fields) : Except (FailureOf r.ReadError r.RenderError) String :=
  r.renderAmong (library.source disk) name (library.source disk name) fields

def asks (library : Library) (r : Renderer) (disk : Disk) (name : String) (fields : Json.Fields) :
    List String :=
  r.asks (library.source disk) name (library.source disk name) fields

def has (library : Library) (disk : Disk) (name : String) : Except LoadError Bool :=
  library.finds plain disk name

def render (library : Library) (disk : Disk) (name : String) (fields : Json.Fields) :
    Except Failure String :=
  library.renders plain disk name fields

end Library

end GlueCode.Template
