import GlueCode.Ledger
import GlueCode.Number.Shortest
import GlueCode.Text.Lines
import GlueCode.Text.Quoted
/-! # JSON values

Values keep the order of the fields of an object, and integers, which have no bound, apart from
floating-point numbers. A key stands once among the fields of an object that was read.
-/
namespace GlueCode

inductive Json where
  | null
  | bool (b : Bool)
  | int (n : Int)
  | float (x : Number.Binary64)
  | str (s : String)
  | arr (items : List Json)
  | obj (fields : List (String × Json))
deriving Repr, Inhabited

namespace Json

abbrev Fields := Ledger String Json

def holds : Json → Bool
  | null => false
  | bool b => b
  | int n => n != 0
  | float x => !x.isZero
  | str s => !s.isEmpty
  | arr items => !items.isEmpty
  | obj fields => !fields.isEmpty

def intDigits (n : Int) : List Char :=
  (if n < 0 then ['-'] else []) ++ Number.natDigits n.natAbs

def plainFloat : Number.FloatLayout :=
  ⟨-4, 15, 'e', 2, ['i', 'n', 'f'], ['n', 'a', 'n']⟩

mutual

/-- The text of a value inside another one, where strings are quoted. -/
def quoted : Json → List Char
  | null => ['N', 'o', 'n', 'e']
  | bool true => ['T', 'r', 'u', 'e']
  | bool false => ['F', 'a', 'l', 's', 'e']
  | int n => intDigits n
  | float x => plainFloat.write x
  | str s => Text.quoteChars s.toList
  | arr items => '[' :: (Text.joinWith [',', ' '] (quotedItems items) ++ [']'])
  | obj fields => '\x7b' :: (Text.joinWith [',', ' '] (quotedFields fields) ++ ['\x7d'])

def quotedItems : List Json → List (List Char)
  | [] => []
  | item :: rest => quoted item :: quotedItems rest

def quotedFields : List (String × Json) → List (List Char)
  | [] => []
  | (key, value) :: rest =>
    (Text.quoteChars key.toList ++ ':' :: ' ' :: quoted value) :: quotedFields rest

end

def display : Json → List Char
  | str s => s.toList
  | value => quoted value

end Json

end GlueCode
