import GlueCode.Text.Lines
/-! # Paths

A path is a root, if it has one, and its components. Reading a path drops empty components and
single dots and keeps double dots; exactly two slashes at the front are a root of their own. A
path with a root replaces the path it is joined to.
-/
namespace GlueCode

inductive Root where
  | relative
  | slash
  | twoSlashes
deriving DecidableEq, Repr, Inhabited

def Root.text : Root → String
  | .relative => ""
  | .slash => "/"
  | .twoSlashes => "//"

structure Path where
  root : Root := .relative
  components : List String := []
deriving DecidableEq, Repr, Inhabited

namespace Path

def rootOf : List Char → Root
  | ['/', '/'] => .twoSlashes
  | '/' :: '/' :: c :: _ => if c = '/' then .slash else .twoSlashes
  | '/' :: _ => .slash
  | _ => .relative

def isComponent (s : String) : Bool := s ≠ "" && s ≠ "."

def ofString (s : String) : Path :=
  ⟨rootOf s.toList, ((Text.splitAt '/' s.toList).map String.ofList).filter isComponent⟩

def text (p : Path) : String :=
  if p.root = .relative && p.components.isEmpty then "."
  else p.root.text ++
    String.ofList (Text.joinWith ['/'] (p.components.map String.toList))

def join (p q : Path) : Path :=
  if q.root = .relative then ⟨p.root, p.components ++ q.components⟩ else q

instance : Div Path := ⟨join⟩

def parent (p : Path) : Path := ⟨p.root, p.components.dropLast⟩

def name (p : Path) : String := p.components.getLast?.getD ""

/-- The last dot of the name and what follows it; nothing when the dot is first or last. -/
def suffix (p : Path) : String :=
  let cs := p.name.toList
  let tail := cs.reverse.takeWhile (· ≠ '.')
  if tail.isEmpty || tail.length + 1 ≥ cs.length then ""
  else String.ofList ('.' :: tail.reverse)

/-- A null character cannot be part of a name on disk. -/
def isNameable (p : Path) : Bool := p.components.all fun c => !c.toList.contains '\x00'

def maxComponentBytes : Nat := 255

def maxBytes : Nat := 4095

def fitsComponent (c : String) : Bool := c.utf8ByteSize ≤ maxComponentBytes

def fits (p : Path) : Bool := p.text.utf8ByteSize ≤ maxBytes

end Path

example : (Path.ofString "a//b/./../c").text = "a/b/../c" := by decide +kernel
example : (Path.ofString "///three").text = "/three" := by decide +kernel
example : (Path.ofString "d/a.tar.gz").suffix = ".gz" := by decide +kernel
example : (Path.ofString ".json").suffix = "" := by decide +kernel

end GlueCode
