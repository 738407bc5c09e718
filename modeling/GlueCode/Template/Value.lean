import GlueCode.Attribute.Basic
import GlueCode.Template.Expression
/-! # Values in templates

While a template is rendered, a name may be undefined, and an expression may be worth more than
data: an operation or a class of data, a series of values, the counter of a loop, the template
itself. A loop is on its way through its items, which are values in a row or what another loop has
still ahead; `loops` are the loops around the place that is rendered, innermost first.
-/
namespace GlueCode.Template

inductive Value where
  | undefined
  /-- Data, and what the way through the attributes of data leads to. -/
  | plain (a : Attribute)
  | series (kind : SeriesKind) (items : List Value)
  /-- The counter of a loop; the outermost loop has level zero. -/
  | counter (level : Nat)
  | template (name : Option String)
  /-- A class that data do not have, by its place and its name. -/
  | otherClass (place name : String)
  /-- Something that can only be printed. -/
  | fixed (text : List Char)
deriving Repr, Inhabited

inductive Source where
  | items (values : List Value)
  | loop (level : Nat)
deriving Repr, Inhabited

structure Loop where
  item : Value
  /-- How far the loop has come, counted from one, and how far it goes. -/
  index : Nat
  count : Nat
  /-- The item that was taken last, and the one before it. -/
  current : Value
  before : Value
  ahead : Source
deriving Repr, Inhabited

def loopAt? (loops : List Loop) (level : Nat) : Option Loop := loops.reverse[level]?

namespace Value

@[match_pattern] abbrev data (v : Json) : Value := .plain (.value v)

def ofCount (n : Nat) : Value := .data (.int n)

def counterText (loops : List Loop) (level : Nat) : List Char :=
  match loopAt? loops level with
  | some l =>
    "<LoopContext ".toList ++ Number.natDigits l.index ++ '/' :: Number.natDigits l.count ++ ['>']
  | none => []

mutual

/-- The text of a value inside a series, where strings are quoted. -/
def quoted (loops : List Loop) : Value → List Char
  | undefined => "Undefined".toList
  | plain a => a.quoted
  | series .list items => '[' :: Text.joinWith [',', ' '] (quotedAll loops items) ++ [']']
  | series .tuple items =>
    '(' :: Text.joinWith [',', ' '] (quotedAll loops items) ++
      if items.length = 1 then [',', ')'] else [')']
  | counter level => counterText loops level
  | template name =>
    "<TemplateReference ".toList ++ (match name with
      | some name => Text.quoteChars name.toList
      | none => Json.null.quoted) ++ ['>']
  | otherClass place name => ("<class '" ++ place ++ "." ++ name ++ "'>").toList
  | fixed text => text

def quotedAll (loops : List Loop) : List Value → List (List Char)
  | [] => []
  | v :: rest => quoted loops v :: quotedAll loops rest

end

/-- The text of a value on its own: an undefined one has none, and a string stands for itself. -/
def text (loops : List Loop) : Value → List Char
  | undefined => []
  | plain a => a.text
  | v => v.quoted loops

def holds : Value → Bool
  | undefined => false
  | data v => v.holds
  | plain (.classes cs) => !cs.isEmpty
  | series _ items => !items.isEmpty
  | _ => true

end Value

end GlueCode.Template
