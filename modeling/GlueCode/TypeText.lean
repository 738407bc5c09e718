import GlueCode.Api.Declaration
import GlueCode.Text.Blank
/-! # The text of a type

How a type use appears in generated code, under options. A type that stands in the place of a
template parameter appears as that parameter inside a generic class. An array appears as its
element with a pair of brackets. Everything else is written by one of four rules: an integer for an
enum, the type as it was first written, a global name with const or reference left out, or the
spelling. A type without a spelling has a text under the first two rules only.
-/
namespace GlueCode

structure TextOptions where
  withoutConst : Bool := false
  withoutReference : Bool := false
  enumsAsInts : Bool := false
  withoutName : Bool := false
  asWritten : Bool := false
  withoutRemoved : Bool := false
  withoutDefaults : Bool := false
deriving DecidableEq, Repr, Inhabited

namespace TypeUse

def constWord : List Char := ['c', 'o', 'n', 's', 't']

def lastIndexOf? (word : List Char) : List Char → Option Nat
  | [] => if word.isEmpty then some 0 else none
  | c :: cs =>
    match lastIndexOf? word cs with
    | some i => some (i + 1)
    | none => if word.isPrefixOf (c :: cs) then some 0 else none

theorem lastIndexOf?_eq_none_iff {word cs : List Char} :
    lastIndexOf? word cs = none ↔ ¬word <:+: cs := by
  induction cs with
  | nil => simp [lastIndexOf?]
  | cons c cs ih =>
    rw [lastIndexOf?, List.infix_cons_iff, not_or]
    cases hrest : lastIndexOf? word cs with
    | none => simpa using fun _ => ih.1 hrest
    | some i =>
      have hlater : word <:+: cs := by
        apply Classical.byContradiction
        intro hno
        rw [ih.2 hno] at hrest
        cases hrest
      simp [hlater]

theorem lastIndexOf?_some {word cs : List Char} {i : Nat} (h : lastIndexOf? word cs = some i) :
    (∃ before after, cs = before ++ (word ++ after) ∧ before.length = i) ∧
      ∀ before after, cs = before ++ (word ++ after) → before.length ≤ i := by
  induction cs generalizing i with
  | nil =>
    rw [lastIndexOf?] at h
    split at h
    · next hempty =>
      obtain rfl := Option.some.inj h
      obtain rfl := List.isEmpty_iff.1 hempty
      refine ⟨⟨[], [], rfl, rfl⟩, fun before after hsplit => ?_⟩
      simp [(List.append_eq_nil_iff.1 hsplit.symm).1]
    · cases h
  | cons c cs ih =>
    rw [lastIndexOf?] at h
    cases hrest : lastIndexOf? word cs with
    | some j =>
      obtain ⟨⟨before, after, hsplit, hlength⟩, hlast⟩ := ih hrest
      rw [hrest] at h
      obtain rfl := Option.some.inj h
      refine ⟨⟨c :: before, after, by simp [hsplit], by simp [hlength]⟩, ?_⟩
      intro before' after' hsplit'
      cases before' with
      | nil => exact Nat.zero_le _
      | cons d before' =>
        have := hlast before' after' (List.cons.inj hsplit').2
        simpa using this
    | none =>
      rw [hrest] at h
      simp only at h
      split at h
      · next hstart =>
        obtain rfl := Option.some.inj h
        obtain ⟨after, hafter⟩ := List.isPrefixOf_iff_prefix.1 hstart
        refine ⟨⟨[], after, hafter.symm, rfl⟩, ?_⟩
        intro before' after' hsplit'
        cases before' with
        | nil => exact Nat.le_refl _
        | cons d before' =>
          have hlater : word <:+: cs := by
            refine ⟨before', after', ?_⟩
            rw [List.append_assoc]
            exact (List.cons.inj hsplit').2.symm
          exact absurd hlater (lastIndexOf?_eq_none_iff.1 hrest)
      · cases h

/-- Leaves out the last `const` when at most one character follows it. -/
def dropTrailingConst (cs : List Char) : List Char :=
  match lastIndexOf? constWord cs with
  | some i => if i + 6 ≥ cs.length then cs.take i ++ cs.drop (i + 5) else cs
  | none => cs

def dropTrailingReference (cs : List Char) : List Char :=
  if cs.getLast? = some '&' then cs.dropLast else cs

def trimDescription (o : TextOptions) (cs : List Char) : List Char :=
  let cs := Text.trim cs
  let cs := if o.withoutReference then dropTrailingReference cs else cs
  if o.withoutConst then dropTrailingConst cs else cs

def strippedSpelling (o : TextOptions) (t : TypeUse) : List Char :=
  let stripped := { t with
    constant := t.constant && !o.withoutConst
    reference := t.reference && !o.withoutReference }
  if t.entry.isVoid || t.entry.isBuiltin then stripped.spell else ':' :: ':' :: stripped.spell

def leafText (o : TextOptions) (t : TypeUse) : List Char :=
  if o.enumsAsInts && (t.isEnum || t.isFlags) then ['i', 'n', 't']
  else if o.asWritten then trimDescription o t.description.toList
  else if o.withoutConst || o.withoutReference then strippedSpelling o t
  else t.spell

def leafHasText (o : TextOptions) (t : TypeUse) : Bool :=
  o.enumsAsInts && (t.isEnum || t.isFlags) || o.asWritten || t.isSpellable

mutual

/-- The text of a type. In a generic context each type first gives way to the template parameter it
stands for. -/
def textIn (o : TextOptions) (generic : Bool) : TypeUse → List Char
  | ⟨e, n, r, c, el, np, vp, as, p, d⟩ =>
    match generic, p with
    | true, some q => q.textAsIs o generic
    | _, _ => textAround o generic ⟨e, n, r, c, el, np, vp, as, p, d⟩ el

def textAsIs (o : TextOptions) (generic : Bool) : TypeUse → List Char
  | ⟨e, n, r, c, el, np, vp, as, p, d⟩ =>
    textAround o generic ⟨e, n, r, c, el, np, vp, as, p, d⟩ el

def textAround (o : TextOptions) (generic : Bool) (t : TypeUse) : Option TypeUse → List Char
  | none => t.leafText o
  | some u => u.textIn o generic ++ ['[', ']']

end

mutual

def hasTextIn (o : TextOptions) (generic : Bool) : TypeUse → Bool
  | ⟨e, n, r, c, el, np, vp, as, p, d⟩ =>
    match generic, p with
    | true, some q => q.hasTextAsIs o generic
    | _, _ => hasTextAround o generic ⟨e, n, r, c, el, np, vp, as, p, d⟩ el

def hasTextAsIs (o : TextOptions) (generic : Bool) : TypeUse → Bool
  | ⟨e, n, r, c, el, np, vp, as, p, d⟩ =>
    hasTextAround o generic ⟨e, n, r, c, el, np, vp, as, p, d⟩ el

def hasTextAround (o : TextOptions) (generic : Bool) (t : TypeUse) : Option TypeUse → Bool
  | none => t.leafHasText o
  | some u => u.hasTextIn o generic

end

/-- The type that appears: in a generic context, the template parameter that a type stands for. -/
def shownIn (generic : Bool) (t : TypeUse) : TypeUse :=
  if generic then t.parameter.getD t else t

theorem textIn_eq (o : TextOptions) (generic : Bool) (t : TypeUse) :
    t.textIn o generic = (t.shownIn generic).textAsIs o generic := by
  obtain ⟨e, n, r, c, el, np, vp, as, p, d⟩ := t
  cases generic with
  | false => simp only [textIn, shownIn, textAsIs, Bool.false_eq_true, if_false]
  | true =>
    cases p with
    | none => simp only [textIn, shownIn, textAsIs, if_true, Option.getD_none]
    | some q => simp only [textIn, shownIn, if_true, Option.getD_some]

theorem hasTextIn_eq (o : TextOptions) (generic : Bool) (t : TypeUse) :
    t.hasTextIn o generic = (t.shownIn generic).hasTextAsIs o generic := by
  obtain ⟨e, n, r, c, el, np, vp, as, p, d⟩ := t
  cases generic with
  | false => simp only [hasTextIn, shownIn, hasTextAsIs, Bool.false_eq_true, if_false]
  | true =>
    cases p with
    | none => simp only [hasTextIn, shownIn, hasTextAsIs, if_true, Option.getD_none]
    | some q => simp only [hasTextIn, shownIn, if_true, Option.getD_some]

theorem textAsIs_leaf {t : TypeUse} (h : t.element = none) (o : TextOptions) (generic : Bool) :
    t.textAsIs o generic = t.leafText o := by
  obtain ⟨e, n, r, c, el, np, vp, as, p, d⟩ := t
  obtain rfl : el = none := h
  simp only [textAsIs, textAround]

theorem hasTextAsIs_leaf {t : TypeUse} (h : t.element = none) (o : TextOptions) (generic : Bool) :
    t.hasTextAsIs o generic = t.leafHasText o := by
  obtain ⟨e, n, r, c, el, np, vp, as, p, d⟩ := t
  obtain rfl : el = none := h
  simp only [hasTextAsIs, hasTextAround]

end TypeUse

def inGeneric (context : Option ClassHead) : Bool := (context.map (·.entry.isGeneric)).getD false

def typeText (o : TextOptions) (context : Option ClassHead) (t : Option TypeUse) : String :=
  match t with
  | none => "void"
  | some t => String.ofList (t.textIn o (inGeneric context))

def hasTypeText (o : TextOptions) (context : Option ClassHead) (t : Option TypeUse) : Bool :=
  match t with
  | none => true
  | some t => t.hasTextIn o (inGeneric context)

end GlueCode
