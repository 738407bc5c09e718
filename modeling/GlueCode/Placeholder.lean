import GlueCode.Text.Digit
import GlueCode.TypeText
/-! # Placeholders

A snippet of code may hold placeholders: a percent sign and the name of a slot, or a percent sign
and the number of an argument. Slots are found from left to right and filled in one pass, so text
that was put in is never looked at again. A slot without a value stays as it is written.
-/
namespace GlueCode

inductive Slot where
  | resultType
  | functionName
  | argumentNames
  | arguments
  | typeName
  | number (digits : List Char)
deriving DecidableEq, Repr, Inhabited

namespace Slot

def name : Slot → List Char
  | .resultType => "RETURN_TYPE".toList
  | .functionName => "FUNCTION_NAME".toList
  | .argumentNames => "ARGUMENT_NAMES".toList
  | .arguments => "ARGUMENTS".toList
  | .typeName => "TYPE".toList
  | .number digits => digits

def named : List Slot := [.resultType, .functionName, .argumentNames, .arguments, .typeName]

def at? (cs : List Char) : Option Slot :=
  match named.find? fun s => s.name.isPrefixOf cs with
  | some s => some s
  | none =>
    let digits := cs.takeWhile Text.isDigit
    if digits.isEmpty then none else some (.number digits)

end Slot

inductive Piece where
  | plain (c : Char)
  | slot (s : Slot)
deriving DecidableEq, Repr

def Piece.chars : Piece → List Char
  | .plain c => [c]
  | .slot s => '%' :: s.name

/-- The pieces of a snippet, of which the first `skip` characters belong to the slot before. -/
def piecesFrom : Nat → List Char → List Piece
  | _, [] => []
  | skip + 1, _ :: cs => piecesFrom skip cs
  | 0, c :: cs =>
    if c = '%' then
      match Slot.at? cs with
      | some s => .slot s :: piecesFrom s.name.length cs
      | none => .plain c :: piecesFrom 0 cs
    else .plain c :: piecesFrom 0 cs

def pieces (code : List Char) : List Piece := piecesFrom 0 code

def Piece.fill (value : Slot → Option (List Char)) (p : Piece) : List Char :=
  match p with
  | .plain _ => p.chars
  | .slot s => (value s).getD p.chars

def expand (value : Slot → Option (List Char)) (code : List Char) : List Char :=
  (pieces code).flatMap (Piece.fill value)

structure ArgumentTexts where
  names : List Char
  declarations : List Char

/-- The last argument with a number. Numbers count from one and are written in plain digits. -/
def Callable.argumentNumbered? (f : Callable) (digits : List Char) : Option Argument :=
  f.arguments.reverse.find? fun a => (a.index + 1).repr.toList = digits

def Callable.slotValue (f : Callable) (texts : ArgumentTexts) : Slot → Option (List Char)
  | .resultType => some (typeText {} f.owner f.result).toList
  | .functionName => some f.libraryName.toList
  | .argumentNames => some texts.names
  | .arguments => some texts.declarations
  | .typeName => f.owner.map (·.name.toList)
  | .number digits => (f.argumentNumbered? digits).map (·.name.toList)

def Callable.expand (f : Callable) (texts : ArgumentTexts) (code : String) : String :=
  String.ofList (GlueCode.expand (f.slotValue texts) code.toList)

def Callable.argumentsFor (f : Callable) (o : TextOptions) : List Argument :=
  f.arguments.filter fun a => !(o.withoutRemoved && a.removed)

def TextOptions.forTypes (o : TextOptions) : TextOptions :=
  { o with withoutName := false, withoutRemoved := false, withoutDefaults := false }

def Argument.declaration (a : Argument) (context : Option ClassHead) (o : TextOptions) : String :=
  typeText o.forTypes context a.type?
    ++ (if o.withoutName then "" else " " ++ a.name)
    ++ (if o.withoutDefaults || a.default = "" then "" else " = " ++ a.default)

def Callable.plainNames (f : Callable) (o : TextOptions) : String :=
  Text.commaList ((f.argumentsFor o).map (·.name))

def Callable.plainDeclarations (f : Callable) (o : TextOptions) : String :=
  Text.commaList ((f.argumentsFor o).map fun a => a.declaration f.owner o)

def Argument.isDeclarable (a : Argument) (context : Option ClassHead) (o : TextOptions) : Bool :=
  hasTypeText o.forTypes context a.type?

def Callable.isDeclarable (f : Callable) (o : TextOptions) : Bool :=
  (f.argumentsFor o).all fun a => a.isDeclarable f.owner o

structure ArgumentWriter where
  names : Callable → TextOptions → String := Callable.plainNames
  declarations : Callable → TextOptions → String := Callable.plainDeclarations

namespace ArgumentWriter

def namesOptions : TextOptions := { withoutRemoved := true }

def declarationOptions : TextOptions := { withoutRemoved := true, withoutDefaults := true }

def texts (w : ArgumentWriter) (f : Callable) : ArgumentTexts :=
  ⟨(w.names f namesOptions).toList, (w.declarations f declarationOptions).toList⟩

def expand (w : ArgumentWriter) (f : Callable) (code : String) : String :=
  f.expand (w.texts f) code

end ArgumentWriter

/-- Whether the placeholders of a function can be expanded. The text of its result is always needed,
and those of its arguments wherever the code asks for their declarations. -/
def Callable.canExpand (f : Callable) (code : String) : Bool :=
  hasTypeText {} f.owner f.result &&
    ((TypeUse.lastIndexOf? (Piece.slot .arguments).chars code.toList).isNone ||
      f.isDeclarable ArgumentWriter.declarationOptions)

end GlueCode
