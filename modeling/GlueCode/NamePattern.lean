import GlueCode.Attribute.Basic
import GlueCode.Text.Digit
/-! # Name patterns

A pattern is text with fields in braces; a brace of the text itself is written twice. The one field
there is stands for a name. After the field's name may come indices in square brackets and
attributes after dots, a conversion after an exclamation mark, and after a colon a layout: fill,
alignment, width and precision. A layout may hold fields itself, one level deep. A pattern is filled
from left to right, and the first thing that is wrong with it is its error.
-/
namespace GlueCode

inductive PatternError where
  | malformed
  | unknownField
  | noPosition
  | indexTooLarge
  /-- An index that is not a number, or one into something that is no text. -/
  | badIndex
  | noAttribute
  | layoutNotText
deriving DecidableEq, Repr

namespace NamePattern

structure Field where
  name : List Char
  conversion : Option Char := none
  layout : List Char := []
deriving DecidableEq, Repr

def isBrace (c : Char) : Bool := c = '\x7b' || c = '\x7d'

/-- The name of a field, the character that ends it, and what follows. Between square brackets
every character belongs to the name. -/
def fieldName? : Bool → List Char → Option (List Char × Char × List Char)
  | _, [] => none
  | true, c :: cs => do
    let (name, stop, rest) ← fieldName? (c ≠ ']') cs
    pure (c :: name, stop, rest)
  | false, c :: cs =>
    if c = '\x7b' then none
    else if c = '\x7d' || c = ':' || c = '!' then some ([], c, cs)
    else do
      let (name, stop, rest) ← fieldName? (c = '[') cs
      pure (c :: name, stop, rest)

def fieldLayout? : Nat → List Char → Option (List Char × List Char)
  | _, [] => none
  | depth, c :: cs =>
    if c = '\x7d' && depth ≤ 1 then some ([], cs)
    else do
      let depth := if c = '\x7b' then depth + 1 else if c = '\x7d' then depth - 1 else depth
      let (layout, rest) ← fieldLayout? depth cs
      pure (c :: layout, rest)

def field? (cs : List Char) : Option (Field × List Char) := do
  let (name, stop, rest) ← fieldName? false cs
  if stop = '\x7d' then pure (⟨name, none, []⟩, rest)
  else if stop = ':' then
    let (layout, rest) ← fieldLayout? 1 rest
    pure (⟨name, none, layout⟩, rest)
  else
    match rest with
    | conversion :: '\x7d' :: rest => pure (⟨name, some conversion, []⟩, rest)
    | conversion :: ':' :: rest =>
      let (layout, rest) ← fieldLayout? 1 rest
      pure (⟨name, some conversion, layout⟩, rest)
    | _ => none

def maxNumber : Nat := 0x7FFFFFFFFFFFFFFF

/-- The number that digits write after those of `n`; what holds another character is none. A number
that gets too large is malformed, whatever comes after it. -/
def numberFrom (n : Nat) : List Char → Except PatternError (Option Nat)
  | [] => .ok (some n)
  | c :: cs =>
    match Text.digitValue? c with
    | none => .ok none
    | some d => if n * 10 + d ≤ maxNumber then numberFrom (n * 10 + d) cs else .error .malformed

def number? (cs : List Char) : Except PatternError (Option Nat) :=
  if cs.isEmpty then .ok none else numberFrom 0 cs

def isAccess (c : Char) : Bool := c = '.' || c = '['

def item (value : Attribute) (index : List Char) : Except PatternError Attribute := do
  match ← number? index, value with
  | some i, .value (.str s) =>
    match s.toList[i]? with
    | some c => return .value (.str (String.singleton c))
    | none => throw .indexTooLarge
  | some i, .classes cs =>
    match cs[i]? with
    | some c => return .cls c
    | none => throw .indexTooLarge
  | _, _ => if index.isEmpty then throw .malformed else throw .badIndex

def follow : Nat → Attribute → List Char → Except PatternError Attribute
  | 0, value, _ => .ok value
  | fuel + 1, value, cs =>
    match cs with
    | [] => .ok value
    | '.' :: cs =>
      let name := cs.takeWhile (!isAccess ·)
      if name.isEmpty then .error .malformed
      else
        match value.get? (String.ofList name) with
        | some found => follow fuel found (cs.drop name.length)
        | none => .error .noAttribute
    | '[' :: cs => do
      let index := cs.takeWhile (· ≠ ']')
      if index.length = cs.length then .error .malformed
      else follow fuel (← item value index) (cs.drop (index.length + 1))
    | _ => .error .malformed

def resolve (name : List Char) (field : List Char) : Except PatternError Attribute := do
  let first := field.takeWhile (!isAccess ·)
  match ← number? first with
  | some _ => .error .noPosition
  | none =>
    if first.isEmpty then .error .noPosition
    else if first = "name".toList then
      follow field.length (.value (.str (String.ofList name))) (field.drop first.length)
    else .error .unknownField

def convert (value : Attribute) : Option Char → Except PatternError Attribute
  | none => .ok value
  | some 's' => .ok (text value.text)
  | some 'r' => .ok (text value.quoted)
  | some 'a' => .ok (text (asciiOf value))
  | some _ => .error .malformed
where
  text (cs : List Char) : Attribute := .value (.str (String.ofList cs))
  asciiOf : Attribute → List Char
    | .value (.str s) => Text.quoteAscii s.toList
    | a => a.quoted

def isAlignment (c : Char) : Bool := c = '<' || c = '>' || c = '^' || c = '='

structure Layout where
  fill : Char := ' '
  alignment : Char := '<'
  width : Nat := 0
  precision : Option Nat := none
deriving DecidableEq, Repr

def readAlignment : List Char → Char × Char × Bool × List Char
  | a :: b :: cs =>
    if isAlignment b then (a, b, true, cs)
    else if isAlignment a then (' ', a, false, b :: cs)
    else (' ', '<', false, a :: b :: cs)
  | [a] => if isAlignment a then (' ', a, false, []) else (' ', '<', false, [a])
  | [] => (' ', '<', false, [])

def readDigits (cs : List Char) : Except PatternError (Option Nat × List Char) := do
  let ds := cs.takeWhile Text.isDigit
  return (← number? ds, cs.drop ds.length)

/-- Signs, separators and all kinds but text are malformed in a layout of text. -/
def readLayout (cs : List Char) : Except PatternError Layout := do
  let (fill, alignment, filled, cs) := readAlignment cs
  let (fill, cs) := match filled, cs with
    | false, '0' :: cs => ('0', cs)
    | _, cs => (fill, cs)
  let (width, cs) ← readDigits cs
  let (precision, cs) ← match cs with
    | '.' :: cs => do
      match ← readDigits cs with
      | (some n, cs) => pure (some n, cs)
      | (none, _) => throw .malformed
    | cs => pure (none, cs)
  if alignment = '=' then throw .malformed
  if cs = [] || cs = ['s'] then return ⟨fill, alignment, width.getD 0, precision⟩
  throw .malformed

def Layout.apply (layout : Layout) (value : List Char) : List Char :=
  let value := match layout.precision with
    | some n => value.take n
    | none => value
  let missing := layout.width - value.length
  let left :=
    if layout.alignment = '>' then missing
    else if layout.alignment = '^' then missing / 2
    else 0
  List.replicate left layout.fill ++ value ++ List.replicate (missing - left) layout.fill

def layOut (layout : List Char) (value : Attribute) : Except PatternError (List Char) :=
  if layout.isEmpty then .ok value.text
  else
    match value with
    | .value (.str s) => (readLayout layout).map (·.apply s.toList)
    | _ => .error .layoutNotText

def fillParts (name : List Char) (nested : List Char → Except PatternError (List Char)) :
    Nat → List Char → Except PatternError (List Char)
  | 0, _ => .ok []
  | fuel + 1, cs => do
    let plain := cs.takeWhile (!isBrace ·)
    match cs.drop plain.length with
    | [] => .ok plain
    | [_] => .error .malformed
    | c :: d :: rest =>
      if c = d then
        return plain ++ c :: (← fillParts name nested fuel rest)
      else if c = '\x7d' then .error .malformed
      else
        match field? (d :: rest) with
        | none => .error .malformed
        | some (field, rest) =>
          let value ← resolve name field.name
          let value ← convert value field.conversion
          let layout ←
            if field.layout.contains '\x7b' then nested field.layout else pure field.layout
          return plain ++ (← layOut layout value) ++ (← fillParts name nested fuel rest)

/-- Fills a pattern. Fields may be nested `depth` deep. -/
def fillAt (name : List Char) : Nat → List Char → Except PatternError (List Char)
  | 0, _ => .error .malformed
  | depth + 1, cs => fillParts name (fillAt name depth) (cs.length + 1) cs

def fill (pattern name : String) : Except PatternError String :=
  (fillAt name.toList 2 pattern.toList).map String.ofList

end NamePattern

end GlueCode
