import GlueCode.Template.Value
/-! # Loops

A loop takes one item after the other until none is ahead. A loop over the counter of another loop
takes what that one has still ahead, each item together with the counter, so that both loops go on
together. What a counter tells, it tells of the moment when it is asked.
-/
namespace GlueCode.Template

namespace Loop

def start (ahead : Source) (count : Nat) : Loop :=
  { item := .undefined, index := 0, count, current := .undefined, before := .undefined, ahead }

def take (l : Loop) (v : Value) (ahead : Source) : Loop :=
  { l with index := l.index + 1, current := v, before := l.current, ahead }

end Loop

/-- Takes the next item of the loop that stands behind the first `skip` ones. -/
def takeNext? : Nat → List Loop → Option (Value × List Loop)
  | _, [] => none
  | skip + 1, l :: outer => (takeNext? skip outer).map fun (v, outer) => (v, l :: outer)
  | 0, l :: outer =>
    match l.ahead with
    | .items [] => none
    | .items (v :: rest) => some (v, l.take v (.items rest) :: outer)
    | .loop level =>
      (takeNext? (outer.length - 1 - level) outer).map fun (v, outer) =>
        let pair := .series .tuple [v, .counter level]
        (pair, l.take pair (.loop level) :: outer)

def nextPass? (loops : List Loop) : Option (List Loop) :=
  match takeNext? 0 loops with
  | some (v, l :: outer) => some ({ l with item := v } :: outer)
  | _ => none

/-- How many items a source has; another loop counts in full. -/
def Source.count (loops : List Loop) : Source → Nat
  | .items values => values.length
  | .loop level => ((loopAt? loops level).map (·.count)).getD 0

def counterField? (loops : List Loop) (level : Nat) (key : String) : Option Value :=
  (loopAt? loops level).bind fun l =>
    let next := (takeNext? (loops.length - 1 - level) loops).map Prod.fst
    if key = "index" then some (.ofCount l.index)
    else if key = "index0" then some (.ofCount (l.index - 1))
    else if key = "revindex" then some (.ofCount (l.count - l.index + 1))
    else if key = "revindex0" then some (.ofCount (l.count - l.index))
    else if key = "length" then some (.ofCount l.count)
    else if key = "depth" then some (.ofCount 1)
    else if key = "depth0" then some (.ofCount 0)
    else if key = "first" then some (.data (.bool (l.index = 1)))
    else if key = "last" then some (.data (.bool next.isNone))
    else if key = "previtem" then some l.before
    else if key = "nextitem" then some (next.getD .undefined)
    else if key = "cycle" || key = "changed" then
      some (.fixed ("<bound method LoopContext.".toList ++ key.toList ++ " of ".toList ++
        Value.counterText loops level ++ ['>']))
    else none

end GlueCode.Template
