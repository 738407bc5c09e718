import GlueCode.Template.Reference
/-! # Templates

A template is what its source was read to: parts in which every name is a reference.
-/
namespace GlueCode

structure Template where
  parts : List (Template.Part Template.Reference)
deriving Repr, Inhabited

def Template.read (source : List Char) : Except SyntaxError Template := do
  return ⟨resolveParts (← acceptedParts (segments source))⟩

end GlueCode
