import GlueCode.Text.Identifier.Table
/-! # Identifiers

An identifier starts with a letter or an underscore and goes on with letters, marks, digits and
connectors of any script.
-/
namespace GlueCode.Text

private def inTable (runs : List (Nat × Nat)) (c : Char) : Bool :=
  runs.any fun (first, last) => first ≤ c.toNat && c.toNat ≤ last

def isIdentifierStart (c : Char) : Bool :=
  if c.toNat < 0x80 then c.isAlpha || c = '_' else inTable identifierStarts c

def isIdentifierRest (c : Char) : Bool :=
  isIdentifierStart c || (if c.toNat < 0x80 then c.isDigit else inTable identifierMarks c)

def leadingIdentifier (cs : List Char) : List Char :=
  match cs with
  | [] => []
  | c :: rest => if isIdentifierStart c then c :: rest.takeWhile isIdentifierRest else []

theorem leadingIdentifier_prefix (cs : List Char) : leadingIdentifier cs <+: cs := by
  cases cs with
  | nil => exact List.prefix_refl []
  | cons c rest =>
    simp only [leadingIdentifier]
    split
    · exact (List.prefix_cons_inj c).2 (List.takeWhile_prefix _)
    · exact List.nil_prefix

example : leadingIdentifier ['é', '1', '²'] = ['é', '1'] := by decide +kernel

end GlueCode.Text
