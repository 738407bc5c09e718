import GlueCode.Template.Tree
/-! # Acceptance

Some templates are well formed and still refused. A filter must exist, except inside a branch, where
it fails when it is used; the parts of a loop inside a branch count as outside again. No loop goes
over the name of the loop counter, and no argument is given twice by name. Tags and loops stand
inside each other up to a limit; a loop does not count in its own `else` branch.
-/
namespace GlueCode.Template

/-- The tags that are open after a segment, innermost first, and which of them repeat. -/
def openTags (opened : List Bool) : Segment → List Bool
  | .tag (.word w :: _) =>
    if w = "if" then false :: opened
    else if w = "for" then true :: opened
    else if w = "else" then
      match opened with
      | _ :: outer => false :: outer
      | [] => []
    else if w = "endif" || w = "endfor" then opened.drop 1
    else opened
  | _ => opened

def greatest (measure : List Bool → Nat) (opened : List Bool) : List Segment → Nat
  | [] => measure opened
  | s :: rest => max (measure opened) (greatest measure (openTags opened s) rest)

def tagDepth : List Segment → Nat := greatest List.length []

def loopDepth : List Segment → Nat := greatest (List.count true) []

/-- Tags cannot be read when more than this stand inside each other. -/
def maxReadDepth : Nat := 240

def maxTagDepth : Nat := 98

def maxLoopDepth : Nat := 20

def Filter.isKnown : Filter → Bool
  | .unknown _ => false
  | _ => true

def knowsFilters : Expr String → Bool := Expr.allFilters fun filter _ => filter.isKnown

def namesOnce : Expr String → Bool := Expr.allFilters fun _ names => names.Nodup

mutual

/-- Nothing in a part is refused; `lenient` inside a branch. -/
def Part.isAccepted (lenient : Bool) : Part String → Bool
  | .text _ => true
  | .print e => lenient || knowsFilters e
  | .branch _ body otherwise => isAcceptedAll true body && isAcceptedAll true otherwise
  | .loop item items body otherwise =>
    item != counterName && (lenient || knowsFilters items) && isAcceptedAll false body &&
      isAcceptedAll false otherwise

def isAcceptedAll (lenient : Bool) : List (Part String) → Bool
  | [] => true
  | part :: rest => part.isAccepted lenient && isAcceptedAll lenient rest

end

mutual

def Part.allExprs (accepts : Expr String → Bool) : Part String → Bool
  | .text _ => true
  | .print e => accepts e
  | .branch test body otherwise =>
    accepts test && allExprsOfAll accepts body && allExprsOfAll accepts otherwise
  | .loop _ items body otherwise =>
    accepts items && allExprsOfAll accepts body && allExprsOfAll accepts otherwise

def allExprsOfAll (accepts : Expr String → Bool) : List (Part String) → Bool
  | [] => true
  | part :: rest => part.allExprs accepts && allExprsOfAll accepts rest

end

def acceptedParts (segments : List Segment) : Except SyntaxError (List (Part String)) := do
  if tagDepth segments > maxReadDepth then throw .bottomless
  let parts ← readParts segments
  if !isAcceptedAll false parts then throw .refused
  if tagDepth segments > maxTagDepth then throw .tooDeep
  if loopDepth segments > maxLoopDepth then throw .tooManyLoops
  if !allExprsOfAll namesOnce parts then throw .repeatedArgument
  return parts

end GlueCode.Template
