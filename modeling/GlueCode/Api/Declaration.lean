import GlueCode.Api.TypeUse
import GlueCode.Text.Dotted
/-! # Declarations

Functions with their arguments, enums, classes, and the interface that they make up. A class is
known from inside by its head; the classes around it are given by name, innermost first, so a
class is never inside itself. Handles tell apart declarations that say the same.
-/
namespace GlueCode

structure Argument where
  name : String
  type : TypeUse
  index : Int := 0
  /-- The default value in the declaration that was wrapped. -/
  libraryDefault : String := ""
  default : String := ""
  removed : Bool := false
deriving DecidableEq, Repr, Inhabited

def Argument.type? (a : Argument) : Option TypeUse := if a.type.isKnown then some a.type else none

/-- What the members of a class know of it. -/
structure ClassHead where
  handle : Nat
  name : String
  entry : Entry
  package : String := ""
  /-- The names of the enclosing classes, innermost first. -/
  enclosing : List String := []
deriving DecidableEq, Repr, Inhabited

structure Callable where
  handle : Nat
  name : String
  arguments : List Argument := []
  result : Option TypeUse := none
  owner : Option ClassHead := none
  wrappedName : String := ""
  isConstructor : Bool := false
  isUserAdded : Bool := false
  isPrivate : Bool := false
  isCopyConstructor : Bool := false
  isImplicitConversion : Bool := false
deriving DecidableEq, Repr, Inhabited

namespace Callable

def libraryName (f : Callable) : String := if f.wrappedName = "" then f.name else f.wrappedName

def numbered (arguments : List Argument) : List Argument :=
  arguments.mapIdx fun i a => { a with index := i }

end Callable

structure EnumDecl where
  handle : Nat
  name : String
  entry : Entry
  package : String := ""
  /-- The companion type that holds sets of the enum's values. -/
  flags : Option Entry := none
  enclosing : List String := []
deriving DecidableEq, Repr, Inhabited

structure ClassDecl extends ClassHead where
  functions : List Callable := []
  enums : List EnumDecl := []
deriving DecidableEq, Repr, Inhabited

/-- The name with what stands around it, outermost first. -/
def targetName (package : Option String) (enclosing : List String) (name : String) : String :=
  Text.dotted (package.toList ++ enclosing.reverse ++ [name])

def EnumDecl.fullName (e : EnumDecl) : String := targetName (some e.package) e.enclosing e.name

namespace ClassDecl

def qualifiedName (c : ClassDecl) : String := c.entry.qualifiedName

def fullName (c : ClassDecl) : String := targetName (some c.package) c.enclosing c.name

def localName (c : ClassDecl) : String := targetName none c.enclosing c.name

def constructors (c : ClassDecl) : List Callable := c.functions.filter (·.isConstructor)

def implicitConversions (c : ClassDecl) : List Callable :=
  c.functions.filter (·.isImplicitConversion)

end ClassDecl

structure Api where
  classes : List ClassDecl := []
  functions : List Callable := []
  enums : List EnumDecl := []
  primitives : List Entry := []
  containers : List Entry := []
  entries : List Entry := []
deriving Repr, Inhabited

namespace Api

def findClass (api : Api) (entry : Entry) : Option ClassDecl :=
  api.classes.find? fun c => c.entry = entry

def allEnums (api : Api) : List EnumDecl := api.enums ++ api.classes.flatMap (·.enums)

def findEnum (api : Api) (entry : Entry) : Option EnumDecl :=
  api.allEnums.find? fun e => (entry.isFlags && e.flags = some entry) || e.entry = entry

def implicitConversions (api : Api) (entry : Entry) : List Callable :=
  if entry.isValue then
    match api.findClass entry with
    | some c => c.implicitConversions
    | none => []
  else []

def package? (api : Api) : Option String :=
  (api.entries.find? fun e => e.isTypeSystem && e.wantsAnything).map (·.name)

theorem mem_classes_of_findClass {api : Api} {entry : Entry} {c : ClassDecl}
    (h : api.findClass entry = some c) : c ∈ api.classes ∧ c.entry = entry := by
  refine ⟨List.mem_of_find?_eq_some h, ?_⟩
  simpa using List.find?_some h

end Api

end GlueCode
