import GlueCode.Template.Basic
import GlueCode.Template.Lookup
import GlueCode.Text.Reindent
/-! # Rendering

Rendering gives the text of a template for given fields. A name that nothing defines is undefined:
it prints as nothing, does not hold and has no items, and only a look into it fails. The loops
around a part go on while it is rendered, if the part goes over one of their counters; so every part
comes with the loops after it.

A few names mean something that is given nothing. The text of a function among them holds its
address, which is left out here.
-/
namespace GlueCode

namespace Template

structure Context where
  name : Option String
  fields : Json.Fields
deriving Repr, Inhabited

def commonNames : Ledger String Value :=
  [("range", .fixed "<class 'range'>".toList), ("dict", .plain (.cls .dictionary)),
    ("lipsum", .fixed "<function generate_lorem_ipsum>".toList),
    ("cycler", .otherClass "jinja2.utils" "Cycler"),
    ("joiner", .otherClass "jinja2.utils" "Joiner"),
    ("namespace", .otherClass "jinja2.utils" "Namespace")]

namespace Context

def given (context : Context) (name : String) : Value :=
  match context.fields.get? name with
  | some value => .data value
  | none => (commonNames.get? name).getD .undefined

def value (context : Context) (loops : List Loop) : Reference → Value
  | .given name => context.given name
  | .item level => ((loopAt? loops level).map (·.item)).getD .undefined
  | .counter level => .counter level
  | .template => .template context.name

end Context

def defaultStyle : List Char := ['/', '/']

def defaultWidth : Nat := 4

/-- An indentation as wide as this or wider counts as too wide for memory, which has no fixed limit in
the program. -/
def maxWidth : Nat := 0x80000000

/-- A width of indentation; below zero there is none. -/
def Value.width (v : Value) : Except RenderError Nat :=
  match v.index? with
  | some n => if n < maxWidth then .ok n.toNat else .error .badArgument
  | none => .error .badArgument

def onlyArgument (name : String) (args : List Value) (names : List String) :
    Except RenderError (Option Value) :=
  match args, names with
  | [], _ => .ok none
  | [v], [] => .ok (some v)
  | [v], [n] => if n = name then .ok (some v) else .error .badArgument
  | _, _ => .error .badArgument

def Filter.apply (filter : Filter) (loops : List Loop) (value : Value) (args : List Value)
    (names : List String) : Except RenderError Value := do
  let result ← match filter with
    | .comment => do
      let style := ((← onlyArgument "style" args names).map (·.text loops)).getD defaultStyle
      pure (Text.commentOut style (value.text loops))
    | .indent => do
      let width ← match ← onlyArgument "spaces" args names with
        | some v => v.width
        | none => pure defaultWidth
      pure (Text.reindentText (List.replicate width ' ') (value.text loops))
    | .unknown _ => throw .unknownFilter
  return .data (.str (String.ofList result))

mutual

def Expr.eval (context : Context) (loops : List Loop) : Expr Reference → Except RenderError Value
  | .name r => .ok (context.value loops r)
  | .literal v => .ok (.data v)
  | .series kind items => do return .ofItems kind (← evalAll context loops items)
  | .field of key => do (← of.eval context loops).field loops key
  | .item of index => do
    let v ← of.eval context loops
    v.item loops (← index.eval context loops)
  | .filtered of filter args names => do
    let v ← of.eval context loops
    filter.apply loops v (← evalAll context loops args) names
  | .signed negative of => do (← of.eval context loops).signed negative
  | .negated of => do return .data (.bool (!(← of.eval context loops).holds))
  | .both a b => do
    let v ← a.eval context loops
    if v.holds then b.eval context loops else return v
  | .either a b => do
    let v ← a.eval context loops
    if v.holds then return v else b.eval context loops

def evalAll (context : Context) (loops : List Loop) : List (Expr Reference) →
    Except RenderError (List Value)
  | [] => .ok []
  | e :: rest => do return (← e.eval context loops) :: (← evalAll context loops rest)

end

structure Rendered where
  text : List Char
  loops : List Loop
deriving Repr, Inhabited

/-- The passes that a loop has still ahead; `fuel` is at least their number. -/
def renderPasses (body : List Loop → Except RenderError Rendered) : Nat → List Loop →
    Except RenderError Rendered
  | 0, loops => .ok ⟨[], loops⟩
  | fuel + 1, loops =>
    match nextPass? loops with
    | none => .ok ⟨[], loops⟩
    | some loops => do
      let pass ← body loops
      let later ← renderPasses body fuel pass.loops
      return ⟨pass.text ++ later.text, later.loops⟩

mutual

def Part.render (context : Context) : Part Reference → List Loop → Except RenderError Rendered
  | .text cs, loops => .ok ⟨cs, loops⟩
  | .print e, loops => do return ⟨(← e.eval context loops).text loops, loops⟩
  | .branch test body otherwise, loops => do
    if (← test.eval context loops).holds then renderAll context body loops
    else renderAll context otherwise loops
  | .loop _ items body otherwise, loops => do
    let source ← (← items.eval context loops).source
    let count := source.count loops
    let started := Loop.start source count :: loops
    if (nextPass? started).isNone then renderAll context otherwise loops
    else
      let passes ← renderPasses (renderAll context body) count started
      return ⟨passes.text, passes.loops.drop 1⟩

def renderAll (context : Context) : List (Part Reference) → List Loop → Except RenderError Rendered
  | [], loops => .ok ⟨[], loops⟩
  | part :: rest, loops => do
    let first ← part.render context loops
    let later ← renderAll context rest first.loops
    return ⟨first.text ++ later.text, later.loops⟩

end

end Template

def Template.render (template : Template) (name : Option String) (fields : Json.Fields) :
    Except Template.RenderError String :=
  if fields.has Template.selfName then .error .takenName
  else (Template.renderAll ⟨name, fields⟩ template.parts []).map fun r => String.ofList r.text

end GlueCode
