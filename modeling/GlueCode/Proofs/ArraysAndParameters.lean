import GlueCode.TypeText
/-! # Arrays and template parameters

In a generic class a type gives way to the template parameter it stands for, and when what is shown
then is an array, so does what it is an array of. Such a walk ends at a type that is no array, whose
text does not depend on a context any more, and every array on the way adds a pair of brackets. A
class that is not generic, or none, shows every type as it is, so there no template parameter has a
part in the text. -/
namespace GlueCode

namespace TypeUse

variable {o : TextOptions} {generic : Bool} {t u e e' : TypeUse} {k k' : Nat}

/-- The types that are shown one after the other, each what the last one is an array of, end after `k`
arrays with `e`. -/
inductive LeadsTo (generic : Bool) : TypeUse → Nat → TypeUse → Prop where
  | shown {t : TypeUse} (notArray : (t.shownIn generic).isArray = false) :
      LeadsTo generic t 0 (t.shownIn generic)
  | array {t u e : TypeUse} {k : Nat} (element : (t.shownIn generic).element = some u)
      (rest : LeadsTo generic u k e) : LeadsTo generic t (k + 1) e

theorem LeadsTo.notArray (h : LeadsTo generic t k e) : e.isArray = false := by
  induction h with
  | shown notArray => exact notArray
  | array _ _ ih => exact ih

theorem LeadsTo.unique (h : LeadsTo generic t k e) (h' : LeadsTo generic t k' e') :
    k' = k ∧ e' = e := by
  induction h generalizing k' with
  | shown notArray =>
    cases h' with
    | shown => exact ⟨rfl, rfl⟩
    | array element => simp [isArray, element] at notArray
  | array element _ ih =>
    cases h' with
    | shown notArray => simp [isArray, element] at notArray
    | array element' rest' =>
      obtain rfl := Option.some.inj (element.symm.trans element')
      obtain ⟨rfl, rfl⟩ := ih rest'
      exact ⟨rfl, rfl⟩

theorem sizeOf_element (h : t.element = some u) : sizeOf u < sizeOf t := by
  obtain ⟨e, n, r, c, el, np, vp, as, p, d⟩ := t
  obtain rfl : el = some u := h
  simp only [mk.sizeOf_spec, Option.some.sizeOf_spec]
  omega

theorem sizeOf_shownIn (generic : Bool) (t : TypeUse) : sizeOf (t.shownIn generic) ≤ sizeOf t := by
  obtain ⟨e, n, r, c, el, np, vp, as, p, d⟩ := t
  cases generic with
  | false => exact Nat.le_refl _
  | true =>
    cases p with
    | none => exact Nat.le_refl _
    | some q =>
      simp only [shownIn, if_true, Option.getD_some, mk.sizeOf_spec, Option.some.sizeOf_spec]
      omega

/-- A type that is shown is no larger than the one it is shown for, and an element is smaller. -/
theorem exists_leadsTo (generic : Bool) (t : TypeUse) : ∃ k e, LeadsTo generic t k e := by
  cases h : (t.shownIn generic).element with
  | none => exact ⟨0, _, .shown (by simp [isArray, h])⟩
  | some u =>
    have hsmaller := Nat.lt_of_lt_of_le (sizeOf_element h) (sizeOf_shownIn generic t)
    obtain ⟨k, e, hrest⟩ := exists_leadsTo generic u
    exact ⟨k + 1, e, .array h hrest⟩
termination_by sizeOf t

def brackets (k : Nat) : List Char := (List.replicate k ['[', ']']).flatten

theorem brackets_succ (k : Nat) : brackets (k + 1) = brackets k ++ ['[', ']'] := by
  rw [brackets, List.replicate_succ', List.flatten_append, brackets]
  rfl

theorem textIn_array (h : (t.shownIn generic).element = some u) :
    t.textIn o generic = u.textIn o generic ++ ['[', ']'] := by
  rw [textIn_eq]
  generalize t.shownIn generic = shown at h
  obtain ⟨e, n, r, c, el, np, vp, as, p, d⟩ := shown
  obtain rfl : el = some u := h
  rw [textAsIs, textAround]

theorem hasTextIn_array (h : (t.shownIn generic).element = some u) :
    t.hasTextIn o generic = u.hasTextIn o generic := by
  rw [hasTextIn_eq]
  generalize t.shownIn generic = shown at h
  obtain ⟨e, n, r, c, el, np, vp, as, p, d⟩ := shown
  obtain rfl : el = some u := h
  rw [hasTextAsIs, hasTextAround]

theorem textIn_leaf (h : (t.shownIn generic).isArray = false) :
    t.textIn o generic = (t.shownIn generic).leafText o := by
  rw [textIn_eq, textAsIs_leaf (by simpa [isArray] using h)]

theorem hasTextIn_leaf (h : (t.shownIn generic).isArray = false) :
    t.hasTextIn o generic = (t.shownIn generic).leafHasText o := by
  rw [hasTextIn_eq, hasTextAsIs_leaf (by simpa [isArray] using h)]

theorem LeadsTo.textIn_eq (h : LeadsTo generic t k e) :
    t.textIn o generic = e.leafText o ++ brackets k := by
  induction h with
  | shown notArray =>
    rw [textIn_leaf notArray]
    exact (List.append_nil _).symm
  | array element _ ih => rw [textIn_array element, ih, brackets_succ, List.append_assoc]

theorem LeadsTo.hasTextIn_eq (h : LeadsTo generic t k e) :
    t.hasTextIn o generic = e.leafHasText o := by
  induction h with
  | shown notArray => exact hasTextIn_leaf notArray
  | array element _ ih => rw [hasTextIn_array element, ih]

mutual

def withoutParameters : TypeUse → TypeUse
  | ⟨e, n, r, c, el, np, vp, as, _, d⟩ =>
    ⟨e, n, r, c, elementWithoutParameters el, np, vp, allWithoutParameters as, none, d⟩

def elementWithoutParameters : Option TypeUse → Option TypeUse
  | none => none
  | some u => some u.withoutParameters

def allWithoutParameters : List TypeUse → List TypeUse
  | [] => []
  | t :: ts => t.withoutParameters :: allWithoutParameters ts

end

mutual

theorem spell_withoutParameters : (t : TypeUse) → t.withoutParameters.spell = t.spell
  | ⟨e, n, r, c, el, np, vp, as, p, d⟩ => by
    rw [withoutParameters, spell, spell, spellAll_withoutParameters as]

theorem spellAll_withoutParameters : (ts : List TypeUse) →
    spellAll (allWithoutParameters ts) = spellAll ts
  | [] => rfl
  | t :: ts => by
    rw [allWithoutParameters, spellAll, spellAll, spell_withoutParameters t,
      spellAll_withoutParameters ts]

end

mutual

theorem isSpellable_withoutParameters : (t : TypeUse) →
    t.withoutParameters.isSpellable = t.isSpellable
  | ⟨e, n, r, c, el, np, vp, as, p, d⟩ => by
    rw [withoutParameters, isSpellable, isSpellable, isSpellableAll_withoutParameters as]

theorem isSpellableAll_withoutParameters : (ts : List TypeUse) →
    isSpellableAll (allWithoutParameters ts) = isSpellableAll ts
  | [] => rfl
  | t :: ts => by
    rw [allWithoutParameters, isSpellableAll, isSpellableAll, isSpellable_withoutParameters t,
      isSpellableAll_withoutParameters ts]

end

theorem leafText_withoutParameters (o : TextOptions) (t : TypeUse) :
    t.withoutParameters.leafText o = t.leafText o := by
  have hspell := spell_withoutParameters t
  obtain ⟨e, n, r, c, el, np, vp, as, p, d⟩ := t
  have hstripped := spell_withoutParameters
    ⟨e, n, r && !o.withoutReference, c && !o.withoutConst, el, np, vp, as, p, d⟩
  simp only [withoutParameters] at hspell hstripped
  simp only [withoutParameters, leafText, strippedSpelling, isEnum, isFlags, hspell, hstripped]

theorem leafHasText_withoutParameters (o : TextOptions) (t : TypeUse) :
    t.withoutParameters.leafHasText o = t.leafHasText o := by
  have hspellable := isSpellable_withoutParameters t
  obtain ⟨e, n, r, c, el, np, vp, as, p, d⟩ := t
  simp only [withoutParameters] at hspellable
  simp only [withoutParameters, leafHasText, isEnum, isFlags, hspellable]

theorem LeadsTo.withoutParameters (h : LeadsTo false t k e) :
    LeadsTo false t.withoutParameters k e.withoutParameters := by
  have hshown : ∀ v : TypeUse, v.shownIn false = v := fun v => rfl
  have helement : ∀ v : TypeUse,
      v.withoutParameters.element = elementWithoutParameters v.element := by
    rintro ⟨e, n, r, c, el, np, vp, as, p, d⟩
    rfl
  induction h with
  | @shown t notArray =>
    refine .shown (t := t.withoutParameters) ?_
    rw [hshown, isArray, Option.isSome_eq_false_iff, Option.isNone_iff_eq_none] at notArray ⊢
    rw [helement, notArray, elementWithoutParameters]
  | array element _ ih =>
    refine .array ?_ ih
    rw [hshown] at element ⊢
    rw [helement, element, elementWithoutParameters]

end TypeUse

open TypeUse

def typeText? (o : TextOptions) (context : Option ClassHead) (t : TypeUse) : Option String :=
  if hasTypeText o context (some t) then some (typeText o context (some t)) else none

variable {o : TextOptions} {context other : Option ClassHead} {t u e : TypeUse} {k : Nat}

theorem typeText?_of_leadsTo (h : LeadsTo (inGeneric context) t k e) :
    typeText? o context t = if e.leafHasText o then
      some (String.ofList (e.leafText o ++ brackets k)) else none := by
  rw [typeText?, hasTypeText, typeText, h.hasTextIn_eq, h.textIn_eq]

theorem typeText?_eq (h : LeadsTo (inGeneric context) t k e) :
    typeText? o context t =
      (typeText? o none e).map fun text => text ++ String.ofList (brackets k) := by
  have hend : LeadsTo (inGeneric none) e 0 e := .shown h.notArray
  rw [typeText?_of_leadsTo h, typeText?_of_leadsTo hend, String.ofList_append]
  have hnone : brackets 0 = [] := rfl
  cases e.leafHasText o with
  | false => rfl
  | true => simp [hnone]

theorem typeText?_congr (h : inGeneric context = inGeneric other) :
    typeText? o context t = typeText? o other t := by
  rw [typeText?, typeText?, hasTypeText, hasTypeText, typeText, typeText, h]

theorem typeText?_withoutParameters (h : inGeneric context = false) :
    typeText? o context t.withoutParameters = typeText? o context t := by
  obtain ⟨k, e, hwalk⟩ := exists_leadsTo (inGeneric context) t
  have hfree : LeadsTo (inGeneric context) t.withoutParameters k e.withoutParameters := by
    rw [h] at hwalk ⊢
    exact hwalk.withoutParameters
  rw [typeText?_of_leadsTo hwalk, typeText?_of_leadsTo hfree, leafHasText_withoutParameters,
    leafText_withoutParameters]

/-- In any context a type leads to one type that is no array, through so many arrays; its text is that
of this type in no context, with a pair of brackets for each. Contexts that are generic alike give the
same text, and one that is not generic gives the same as none. There the text does not depend on the
template parameters noted anywhere in the type. -/
theorem array_text_decomposes (o : TextOptions) (context : Option ClassHead) (t : TypeUse) :
    (∃ k e, LeadsTo (inGeneric context) t k e ∧ e.isArray = false ∧
        (∀ k' e', LeadsTo (inGeneric context) t k' e' → k' = k ∧ e' = e) ∧
        typeText? o context t =
          (typeText? o none e).map fun text => text ++ String.ofList (brackets k)) ∧
      (∀ c d : ClassHead, c.entry.isGeneric = d.entry.isGeneric →
        typeText? o (some c) t = typeText? o (some d) t) ∧
      (∀ c : ClassHead, c.entry.isGeneric = false →
        typeText? o (some c) t = typeText? o none t) ∧
      (inGeneric context = false → ∀ u : TypeUse, u.withoutParameters = t.withoutParameters →
        typeText? o context u = typeText? o context t) := by
  obtain ⟨k, e, hwalk⟩ := exists_leadsTo (inGeneric context) t
  refine ⟨⟨k, e, hwalk, hwalk.notArray, fun k' e' hother => hwalk.unique hother,
    typeText?_eq hwalk⟩, ?_, ?_, ?_⟩
  · intro c d hsame
    exact typeText?_congr hsame
  · intro c hplain
    exact typeText?_congr hplain
  · intro hplain u hsame
    rw [← typeText?_withoutParameters hplain, hsame, typeText?_withoutParameters hplain]

def parameterNamed (name : String) : TypeUse :=
  { entry := { handle := 2, kind := .value, name } }

def cellUse : TypeUse :=
  { entry := { handle := 1, kind := .builtin, name := "int" }
    parameter := some (parameterNamed "U") }

def rowUse : TypeUse :=
  { cellUse with parameter := some { parameterNamed "T" with element := some cellUse } }

def gridUse : TypeUse := { parameterNamed "Grid" with element := some rowUse }

def boxHead : ClassHead :=
  { handle := 3, name := "Box"
    entry := { handle := 3, kind := .value, name := "Box", isGeneric := true } }

theorem grid_in_box : LeadsTo true gridUse 2 (parameterNamed "U") ∧
    typeText? {} (some boxHead) gridUse = some "U[][]" ∧
    typeText? {} none gridUse = some "int[]" := by
  have hwalk : LeadsTo true gridUse 2 (parameterNamed "U") :=
    .array rfl (.array rfl (.shown rfl))
  obtain ⟨⟨k, e, -, -, hunique, htext⟩, -⟩ := array_text_decomposes {} (some boxHead) gridUse
  obtain ⟨rfl, rfl⟩ := hunique 2 (parameterNamed "U") hwalk
  obtain ⟨-, -, -, hfree⟩ := array_text_decomposes {} none gridUse
  refine ⟨hwalk, ?_, ?_⟩
  · rw [htext]
    decide +kernel
  · rw [← hfree rfl gridUse.withoutParameters rfl]
    decide +kernel

end GlueCode
