import GlueCode.Template.Acceptance
/-! # References

A name in a template stands for the item or the counter of the innermost loop that binds it, or for
what the template is given under that name. The names that the parts of a loop use share a frame,
and so do those of its `else` branch and those outside all loops. In one frame, different writings
of the same identifier stand for what the last of them is given. The name `self` stands for the
template, unless a loop binds it before it is used.
-/
namespace GlueCode.Template

inductive Reference where
  | given (name : String)
  /-- The item of a loop; the outermost loop has level zero. -/
  | item (level : Nat)
  | counter (level : Nat)
  | template
deriving DecidableEq, Repr, Inhabited

def selfName : String := "self"

mutual

/-- The names that a part uses outside the parts of loops, in their order. -/
def Part.names : Part String → List String
  | .text _ => []
  | .print e => e.names
  | .branch test body otherwise => test.names ++ namesInAll body ++ namesInAll otherwise
  | .loop _ items _ _ => items.names

def namesInAll : List (Part String) → List String
  | [] => []
  | part :: rest => part.names ++ namesInAll rest

end

mutual

def Part.usesFirst? (name : String) : Part String → Option Bool
  | .text _ => none
  | .print e => if e.names.contains name then some true else none
  | .branch test body otherwise =>
    if test.names.contains name then some true
    else (usesFirstInAll? name body).or (usesFirstInAll? name otherwise)
  | .loop item items body otherwise =>
    if item = name then some false
    else if items.names.contains name then some true
    else (usesFirstInAll? name body).or (usesFirstInAll? name otherwise)

def usesFirstInAll? (name : String) : List (Part String) → Option Bool
  | [] => none
  | part :: rest => (part.usesFirst? name).or (usesFirstInAll? name rest)

end

abbrev References := Ledger String Reference

/-- The reference that a name of a frame stands for; `bound` are those that the frame binds. -/
def frameReference (bound : References) (frame : List String) (name : String) : Reference :=
  let form := Text.compatibleForm name.toList
  let last := (frame.reverse.find? fun other => Text.compatibleForm other.toList = form).getD name
  (bound.get? last).getD (.given last)

def References.extend (outer bound : References) (used : List String) : References :=
  let frame := bound.keys ++ used.filter fun name => !outer.has name
  frame.map (fun name => (name, frameReference bound frame name)) ++ outer

def References.of (references : References) (name : String) : Reference :=
  (references.get? name).getD (.given name)

mutual

def Part.resolve (level : Nat) (references : References) : Part String → Part Reference
  | .text cs => .text cs
  | .print e => .print (e.map references.of)
  | .branch test body otherwise =>
    .branch (test.map references.of) (resolveAll level references body)
      (resolveAll level references otherwise)
  | .loop item items body otherwise =>
    let bound := [(counterName, .counter level), (item, .item level)]
    .loop item (items.map references.of)
      (resolveAll (level + 1) (references.extend bound (namesInAll body)) body)
      (resolveAll level (references.extend [] (namesInAll otherwise)) otherwise)

def resolveAll (level : Nat) (references : References) : List (Part String) → List (Part Reference)
  | [] => []
  | part :: rest => part.resolve level references :: resolveAll level references rest

end

def resolveParts (parts : List (Part String)) : List (Part Reference) :=
  let bound := if usesFirstInAll? selfName parts = some true then [(selfName, .template)] else []
  resolveAll 0 (References.extend [] bound (namesInAll parts)) parts

end GlueCode.Template
