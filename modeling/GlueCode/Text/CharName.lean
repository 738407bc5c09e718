import GlueCode.Text.CharName.Table
import GlueCode.Text.Lines
/-! # Names of characters

Characters are found by their names, in any case. The table holds the characters of the common
blocks, so most names of rarer ones are not known.
-/
namespace GlueCode.Text

def nameIndex? (name : List Char) (names : String) : Option Nat :=
  (splitAt ';' names.toList).findIdx? (· = name)

def charNamed? (name : List Char) : Option Char :=
  let name := name.map Char.toUpper
  if name.isEmpty then none
  else
    let inRows := charNameRows.findSome? fun (start, names) =>
      (nameIndex? name names).map fun i => Char.ofNat (start + i)
    match inRows with
    | some c => some c
    | none => (charAliases.find? (·.2.toList = name)).map fun (code, _) => Char.ofNat code

example : nameIndex? ['B'] "A;B" = some 1 := by decide +kernel

end GlueCode.Text
