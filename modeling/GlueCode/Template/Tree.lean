import GlueCode.Template.Expression
import GlueCode.Template.Segment
/-! # Parts of a template

A template is a sequence of parts: text, printed expressions, branches and loops. Branches and loops
stand between tags, and their tags must match. A tag that parts follow may end with a colon.

Every other tag is left out and counts as malformed: those that bring in other templates, such as
`include`, `extends` and `import`, and `set`, `macro`, `call`, `filter`, `block`, `raw` and `with`.
Loops go over one name, have no condition and are not recursive.
-/
namespace GlueCode.Template

inductive Part (α : Type) where
  | text (cs : List Char)
  | print (e : Expr α)
  | branch (test : Expr α) (body otherwise : List (Part α))
  | loop (item : String) (items : Expr α) (body otherwise : List (Part α))
deriving Repr, Inhabited

def counterName : String := "loop"

def tagFault : List Segment → SyntaxError
  | .tag tokens :: _ => fault tokens
  | _ => .malformed

def endTag : List Token → Except SyntaxError Unit
  | [] => .ok ()
  | tokens => .error (fault tokens)

def openTag : List Token → Except SyntaxError Unit
  | .mark ':' :: tokens => endTag tokens
  | tokens => endTag tokens

def readPrint (tokens : List Token) : Except SyntaxError (Expr String) := do
  let (e, rest) ← Expr.ofTokens tokens
  endTag rest
  return e

def readOpenTag (tokens : List Token) : Except SyntaxError (Expr String) := do
  let (e, rest) ← Expr.ofTokens tokens
  openTag rest
  return e

def readLoopTag : List Token → Except SyntaxError (String × Expr String)
  | .word "in" :: _ => .error .malformed
  | .word _ :: .word "in" :: .word "recursive" :: _ => .error .malformed
  | .word item :: .word "in" :: rest =>
    if (literalWord? item).isSome then .error .malformed
    else do return (item, ← readOpenTag rest)
  | .word _ :: rest => .error (fault rest)
  | tokens => .error (fault tokens)

abbrev Rest (α : Type) := α × List Segment

def readEnd (word : String) : List Segment → Except SyntaxError (List Segment)
  | .tag (.word w :: tokens) :: rest =>
    if w = word then do
      endTag tokens
      return rest
    else .error .malformed
  | rest => .error (tagFault rest)

mutual

/-- The parts up to the first tag that starts none, and the segments from there. -/
def readAll : Nat → List Segment → Except SyntaxError (Rest (List (Part String)))
  | 0, _ => .error .malformed
  | fuel + 1, segments => do
    match segments with
    | .text cs :: rest =>
      let (parts, rest) ← readAll fuel rest
      pure (.text cs :: parts, rest)
    | .print tokens :: rest =>
      let e ← readPrint tokens
      let (parts, rest) ← readAll fuel rest
      pure (.print e :: parts, rest)
    | .tag (.word "if" :: tokens) :: rest =>
      let (part, rest) ← readBranch fuel tokens rest
      let (parts, rest) ← readAll fuel rest
      pure (part :: parts, rest)
    | .tag (.word "for" :: tokens) :: rest =>
      let (part, rest) ← readLoop fuel tokens rest
      let (parts, rest) ← readAll fuel rest
      pure (part :: parts, rest)
    | rest => pure ([], rest)

def readBranch : Nat → List Token → List Segment → Except SyntaxError (Rest (Part String))
  | 0, _, _ => .error .malformed
  | fuel + 1, tokens, rest => do
    let test ← readOpenTag tokens
    let (body, rest) ← readAll fuel rest
    match rest with
    | .tag (.word "elif" :: tokens) :: rest =>
      let (part, rest) ← readBranch fuel tokens rest
      pure (.branch test body [part], rest)
    | .tag (.word "else" :: tokens) :: rest =>
      openTag tokens
      let (otherwise, rest) ← readAll fuel rest
      let rest ← readEnd "endif" rest
      pure (.branch test body otherwise, rest)
    | rest =>
      let rest ← readEnd "endif" rest
      pure (.branch test body [], rest)

def readLoop : Nat → List Token → List Segment → Except SyntaxError (Rest (Part String))
  | 0, _, _ => .error .malformed
  | fuel + 1, tokens, rest => do
    let (item, items) ← readLoopTag tokens
    let (body, rest) ← readAll fuel rest
    match rest with
    | .tag (.word "else" :: tokens) :: rest =>
      openTag tokens
      let (otherwise, rest) ← readAll fuel rest
      let rest ← readEnd "endfor" rest
      pure (.loop item items body otherwise, rest)
    | rest =>
      let rest ← readEnd "endfor" rest
      pure (.loop item items body [], rest)

end

def readParts (segments : List Segment) : Except SyntaxError (List (Part String)) := do
  let (parts, rest) ← readAll (2 * segments.length + 2) segments
  match rest with
  | [] => return parts
  | rest => throw (tagFault rest)

end GlueCode.Template
