import GlueCode.Api.Entry
import GlueCode.Text.Lines
/-! # Uses of types

A type use is an entry with its qualifiers. Its spelling is the constness, the name, the template
arguments in angle brackets, a star for each indirection, and an ampersand for a reference. A
blank keeps the closing brackets of nested arguments apart. Beside it stands the description: the
type as it was first written, or the spelling when nothing was recorded. A type with an unknown type
among its template arguments has no spelling, and cannot be made without a description.
-/
namespace GlueCode

structure TypeUse where
  entry : Entry
  indirections : Nat := 0
  reference : Bool := false
  constant : Bool := false
  element : Option TypeUse := none
  nativePointer : Bool := false
  valuePointer : Bool := false
  arguments : List TypeUse := []
  /-- The template parameter in whose place the type stands. -/
  parameter : Option TypeUse := none
  description : String := ""
deriving Repr, Inhabited

namespace TypeUse

mutual

def decEq : (t u : TypeUse) → Decidable (t = u)
  | ⟨e, n, r, c, el, np, vp, as, p, d⟩, ⟨e', n', r', c', el', np', vp', as', p', d'⟩ =>
    have := decEqOption el el'
    have := decEqList as as'
    have := decEqOption p p'
    decidable_of_iff (e = e' ∧ n = n' ∧ r = r' ∧ c = c' ∧ el = el' ∧ np = np' ∧ vp = vp' ∧
      as = as' ∧ p = p' ∧ d = d') (by simp)

def decEqOption : (t u : Option TypeUse) → Decidable (t = u)
  | none, none => isTrue rfl
  | none, some _ => isFalse (by simp)
  | some _, none => isFalse (by simp)
  | some t, some u =>
    have := decEq t u
    decidable_of_iff (t = u) (by simp)

def decEqList : (ts us : List TypeUse) → Decidable (ts = us)
  | [], [] => isTrue rfl
  | [], _ :: _ => isFalse (by simp)
  | _ :: _, [] => isFalse (by simp)
  | t :: ts, u :: us =>
    have := decEq t u
    have := decEqList ts us
    decidable_of_iff (t = u ∧ ts = us) (by simp)

end

instance : DecidableEq TypeUse := decEq

def bracketed : List (List Char) → List Char
  | [] => []
  | args =>
    let inner := Text.joinWith [',', ' '] args
    '<' :: (inner ++ (if inner.getLast? = some '>' then [' '] else []) ++ ['>'])

mutual

def spell : TypeUse → List Char
  | ⟨entry, indirections, reference, constant, _, _, _, arguments, _, _⟩ =>
    (if constant then ['c', 'o', 'n', 's', 't', ' '] else []) ++ entry.qualifiedName.toList
      ++ bracketed (spellAll arguments) ++ List.replicate indirections '*'
      ++ (if reference then ['&'] else [])

def spellAll : List TypeUse → List (List Char)
  | [] => []
  | t :: ts => spell t :: spellAll ts

end

def spelling (t : TypeUse) : String := String.ofList t.spell

def unknown : TypeUse := { entry := Entry.unknown }

def isKnown (t : TypeUse) : Bool := t.entry.isKnown

mutual

def isSpellable : TypeUse → Bool
  | ⟨entry, _, _, _, _, _, _, arguments, _, _⟩ => entry.isKnown && isSpellableAll arguments

def isSpellableAll : List TypeUse → Bool
  | [] => true
  | t :: ts => isSpellable t && isSpellableAll ts

end

inductive Unmakeable where
  | negative (entry : Entry) (indirections : Int)
  /-- Nothing is recorded and the type has no spelling. -/
  | unspellable
deriving DecidableEq, Repr

def Unmakeable.message? : Unmakeable → Option String
  | .negative entry indirections =>
    some ("Negative indirections for " ++ entry.qualifiedName ++ ": -" ++ indirections.natAbs.repr)
  | .unspellable => none

def settled (t : TypeUse) : TypeUse :=
  if t.description = "" then { t with description := t.spelling } else t

def make? (t : TypeUse) (indirections : Int) : Except Unmakeable TypeUse :=
  if indirections < 0 then .error (.negative t.entry indirections)
  else if t.description = "" && !t.isSpellable then .error .unspellable
  else .ok { t with indirections := indirections.toNat }.settled

def isArray (t : TypeUse) : Bool := t.element.isSome
def isContainer (t : TypeUse) : Bool := t.entry.isContainer
def isEnum (t : TypeUse) : Bool := t.entry.isEnum
def isFlags (t : TypeUse) : Bool := t.entry.isFlags
def isObject (t : TypeUse) : Bool := t.entry.isObject

/-- Any pointer shape: indirections, a native pointer or a value pointer. -/
def isPointer (t : TypeUse) : Bool := t.indirections > 0 || t.nativePointer || t.valuePointer

theorem spellAll_eq_map (ts : List TypeUse) : spellAll ts = ts.map spell := by
  induction ts with
  | nil => rfl
  | cons t ts ih => simp [spellAll, ih]

theorem spell_settled (t : TypeUse) : t.settled.spell = t.spell := by
  unfold settled
  split
  · cases t; simp [spell]
  · rfl

end TypeUse

end GlueCode
