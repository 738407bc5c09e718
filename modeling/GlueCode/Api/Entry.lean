import GlueCode.Text.Quoted
/-! # Declared types

An entry describes one declared type of the wrapped library. Two declarations are different
entries even when all they say is the same: the handle tells them apart. One entry of its own
stands where no type is known.
-/
namespace GlueCode

inductive Kind where
  | void
  | builtin
  /-- A type that is declared to be used like a built-in one. -/
  | primitive
  | enum
  | flags
  | container
  | object
  | value
  | managedObject
  | typeSystem
  | unknown
deriving DecidableEq, Repr, Inhabited

def Kind.word : Kind → String
  | .void => "void"
  | .builtin => "cpp_primitive"
  | .primitive => "primitive"
  | .enum => "enum"
  | .flags => "flags"
  | .container => "container"
  | .object => "object"
  | .value => "value"
  | .managedObject => "managed_object"
  | .typeSystem => "type_system"
  | .unknown => "unknown"

def Kind.all : List Kind :=
  [.void, .builtin, .primitive, .enum, .flags, .container, .object, .value, .managedObject,
    .typeSystem]

def Kind.ofWord? (word : String) : Option Kind := Kind.all.find? (·.word = word)

structure Wanted where
  target : Bool := true
  cpp : Bool := true
deriving DecidableEq, Repr, Inhabited

structure Entry where
  handle : Nat
  kind : Kind
  name : String
  /-- The name with its scopes, when it is not the plain name. -/
  scopedName : String := ""
  defaultConstructor : Option String := none
  isGeneric : Bool := false
  wanted : Wanted := {}
deriving DecidableEq, Repr, Inhabited

namespace Entry

def unknown : Entry := { handle := 0, kind := .unknown, name := "" }

def qualifiedName (e : Entry) : String := if e.scopedName = "" then e.name else e.scopedName

def isVoid (e : Entry) : Bool := e.kind = .void
def isBuiltin (e : Entry) : Bool := e.kind = .builtin
def isPrimitive (e : Entry) : Bool := e.kind = .builtin || e.kind = .primitive
def isEnum (e : Entry) : Bool := e.kind = .enum
def isFlags (e : Entry) : Bool := e.kind = .flags
def isContainer (e : Entry) : Bool := e.kind = .container
def isObject (e : Entry) : Bool := e.kind = .object || e.kind = .managedObject
def isManagedObject (e : Entry) : Bool := e.kind = .managedObject
def isValue (e : Entry) : Bool := e.kind = .value
def isComplex (e : Entry) : Bool := e.kind = .object || e.kind = .value || e.kind = .managedObject
def isTypeSystem (e : Entry) : Bool := e.kind = .typeSystem
def isKnown (e : Entry) : Bool := e.kind ≠ .unknown

/-- The expression declared to make a value of the type; the empty text declares none. -/
def declaredSample? (e : Entry) : Option String := e.defaultConstructor.filter (· ≠ "")

def hasDefaultConstructor (e : Entry) : Bool := e.declaredSample?.isSome

def wantsAnything (e : Entry) : Bool := e.wanted.target || e.wanted.cpp

def describe (e : Entry) : String :=
  "TypeEntry(" ++ e.kind.word ++ ", " ++ Text.quote e.qualifiedName ++ ")"

theorem isComplex_iff {e : Entry} : e.isComplex = true ↔ e.isObject = true ∨ e.isValue = true := by
  cases h : e.kind <;> simp [isComplex, isObject, isValue, h]

end Entry

end GlueCode
