import GlueCode.Attribute.Operations
/-! # Attributes

Values have attributes, which are looked up by name: the parts of a number, the operations of the
value's class, the documentation of the class, and the class itself. Operations and classes have
attributes in their turn. Where the text of an operation holds the address of its value, the address
is left out; so is the documentation of operations.
-/
namespace GlueCode

def Json.valueClass : Json → ValueClass
  | .null => .null
  | .bool _ => .truth
  | .int _ => .integer
  | .float _ => .float
  | .str _ => .text
  | .arr _ => .list
  | .obj _ => .dictionary

inductive Attribute where
  | value (v : Json)
  | operation (name : String) (wrapped : Bool) (of : Json)
  /-- An operation of a class, for no value. -/
  | unbound (name : String) (wrapped : Bool) (of : ValueClass)
  | cls (c : ValueClass)
  | classes (cs : List ValueClass)
deriving Repr, Inhabited

namespace Attribute

def valueClass : Attribute → ValueClass
  | value v => v.valueClass
  | operation _ false _ => .operation
  | operation _ true _ => .wrappedOperation
  | unbound _ _ _ => .operation
  | cls _ => .classes
  | classes _ => .tuple

def numberPart? (key : String) : Json → Option Json
  | .int n =>
    if key = "real" || key = "numerator" then some (.int n)
    else if key = "imag" then some (.int 0)
    else if key = "denominator" then some (.int 1)
    else none
  | .float x =>
    if key = "real" then some (.float x)
    else if key = "imag" then some (.float (.zero false))
    else none
  | _ => none

def part? (key : String) : Json → Option Json
  | .bool b => numberPart? key (.int b.toInt)
  | v => numberPart? key v

def description? (key : String) : Attribute → Option Attribute
  | value _ => none
  | operation name wrapped of =>
    if key = "__name__" then some (value (.str name))
    else if key = "__qualname__" then some (value (.str (of.valueClass.name ++ "." ++ name)))
    else if key = "__self__" then some (value of)
    else if key = "__module__" && !wrapped then some (value .null)
    else if key = "__objclass__" && wrapped then some (cls of.valueClass)
    else none
  | unbound name _ of =>
    if key = "__name__" then some (value (.str name))
    else if key = "__qualname__" then some (value (.str (of.name ++ "." ++ name)))
    else if key = "__objclass__" then some (cls of)
    else none
  | cls c =>
    if key = "__name__" || key = "__qualname__" then some (value (.str c.name))
    else if key = "__module__" then some (value (.str "builtins"))
    else if key = "__mro__" then some (classes c.lineage)
    else if key = "__bases__" then some (classes c.base?.toList)
    else if key = "__base__" then some (c.base?.elim (value .null) cls)
    else if c.hasOperation key then some (unbound key false c)
    else if c.hasWrapped key then some (unbound key true c)
    else none
  | classes _ => none

def operation? (key : String) : Attribute → Option Attribute
  | value v =>
    if key = "__hash__" && (v.valueClass = .list || v.valueClass = .dictionary) then
      some (value .null)
    else if v.valueClass.hasOperation key then some (operation key false v)
    else if v.valueClass.hasWrapped key then some (operation key true v)
    else none
  | _ => none

def documentation? : Attribute → Option Attribute
  | value v => some (value v.valueClass.documentation)
  | classes _ => some (value ValueClass.tuple.documentation)
  | cls c =>
    if c = .operation || c = .wrappedOperation then none else some (value c.documentation)
  | operation .. => none
  | unbound .. => none

def get? (a : Attribute) (key : String) : Option Attribute :=
  if key = "__class__" then some (cls a.valueClass)
  else if key = "__doc__" then a.documentation?
  else
    match a with
    | value v =>
      match part? key v with
      | some part => some (value part)
      | none => operation? key a
    | _ => description? key a

def describe (name : String) (wrapped : Bool) (of : String) : String :=
  (if wrapped then "<method-wrapper '" ++ name ++ "'" else "<built-in method " ++ name) ++ of

def classText (c : ValueClass) : List Char := ("<class '" ++ c.name ++ "'>").toList

def text : Attribute → List Char
  | value v => v.display
  | operation name wrapped of =>
    (describe name wrapped (" of " ++ of.valueClass.name ++ " object>")).toList
  | unbound name wrapped of =>
    ((if wrapped then "<slot wrapper '" else "<method '") ++ name ++ "' of '" ++ of.name
      ++ "' objects>").toList
  | cls c => classText c
  | classes [c] => '(' :: classText c ++ [',', ')']
  | classes cs => '(' :: Text.joinWith [',', ' '] (cs.map classText) ++ [')']

/-- The text of an attribute inside another one, where strings are quoted. -/
def quoted : Attribute → List Char
  | value v => v.quoted
  | a => a.text

end Attribute

example : (((Attribute.value (.str "a")).get? "__class__").bind (·.get? "__name__")).map
    Attribute.text = some ['s', 't', 'r'] := by decide +kernel

end GlueCode
