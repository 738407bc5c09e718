import GlueCode.Proofs.Spelling
import GlueCode.TypeText
/-! # The global scope in the text of a type

Where const or reference is left out, a type is shown by its spelling without the qualifiers that
are left out, behind the global scope unless it is void or a built-in type. The scope is put in
front of the whole spelling. That is in front of the name as long as no const is left; a const that
is left stands between the scope and the name. -/
namespace GlueCode

/-- Void and the types that the language itself has, which no scope holds. -/
def Entry.IsUnscoped (e : Entry) : Prop := e.isVoid = true ∨ e.isBuiltin = true

instance (e : Entry) : Decidable e.IsUnscoped := inferInstanceAs (Decidable (_ ∨ _))

theorem Entry.isUnscoped_iff {e : Entry} : e.IsUnscoped ↔ e.kind = .void ∨ e.kind = .builtin := by
  simp [IsUnscoped, isVoid, isBuiltin]

def Entry.scope (e : Entry) : List Char := if e.IsUnscoped then [] else [':', ':']

namespace TypeUse

variable {o : TextOptions} {t u : TypeUse} {context : Option ClassHead}

def cleared (o : TextOptions) (t : TypeUse) : TypeUse :=
  { t with
    constant := t.constant && !o.withoutConst
    reference := t.reference && !o.withoutReference }

def scopedSpell (t : TypeUse) : List Char :=
  (if t.constant then constPrefix else []) ++ (t.entry.scope ++ t.entry.qualifiedName.toList) ++
    (bracketed (t.arguments.map spell) ++ t.back)

/-- The options leave out const or reference and do not ask for the description, and the type is
neither an array nor an enum that is written as an integer. -/
structure ShowsSpelling (o : TextOptions) (t : TypeUse) : Prop where
  leavesOut : o.withoutConst = true ∨ o.withoutReference = true
  notAsWritten : o.asWritten = false
  notArray : t.isArray = false
  notInteger : (o.enumsAsInts && (t.isEnum || t.isFlags)) = false

theorem scope_spell_iff :
    t.entry.scope ++ t.spell = t.scopedSpell ↔ t.entry.IsUnscoped ∨ t.constant = false := by
  unfold Entry.scope scopedSpell
  rw [spell_eq, front, Entry.scope]
  by_cases hscope : t.entry.IsUnscoped
  · simp [hscope]
  · cases hconst : t.constant with
    | false => simp [hscope]
    | true =>
      refine iff_of_false (fun hsame => ?_) (by simp [hscope])
      have hfirst := congrArg List.head? hsame
      simp [hscope, constPrefix] at hfirst

theorem strippedSpelling_eq : strippedSpelling o t = t.entry.scope ++ (t.cleared o).spell := by
  unfold strippedSpelling Entry.scope Entry.IsUnscoped
  split <;> simp_all [cleared]

theorem typeText_spelling (h : ShowsSpelling o (t.shownIn (inGeneric context))) :
    hasTypeText o context (some t) = (t.shownIn (inGeneric context)).isSpellable ∧
      (typeText o context (some t)).toList =
        strippedSpelling o (t.shownIn (inGeneric context)) := by
  have helement : (t.shownIn (inGeneric context)).element = none := by
    simpa [isArray] using h.notArray
  have hleaves : (o.withoutConst || o.withoutReference) = true := by
    simpa using h.leavesOut
  constructor
  · rw [hasTypeText, hasTextIn_eq, hasTextAsIs_leaf helement, leafHasText, h.notInteger,
      h.notAsWritten, Bool.false_or, Bool.false_or]
  · rw [typeText, String.toList_ofList, textIn_eq, textAsIs_leaf helement, leafText, h.notInteger,
      h.notAsWritten, hleaves]
    rfl

/-- The text of a type without const or reference: the scope, if the type is in one, and the
spelling without what is left out. The scope stands directly in front of the name, as it should,
just when there is none or no const is left. -/
theorem scope_in_front_of_name_iff (hshown : t.shownIn (inGeneric context) = u)
    (h : ShowsSpelling o u) :
    hasTypeText o context (some t) = u.isSpellable ∧
      (typeText o context (some t)).toList = u.entry.scope ++ (u.cleared o).spell ∧
      ((typeText o context (some t)).toList = (u.cleared o).scopedSpell ↔
        u.entry.IsUnscoped ∨ (u.cleared o).constant = false) := by
  subst hshown
  obtain ⟨hsome, htext⟩ := typeText_spelling h
  rw [strippedSpelling_eq] at htext
  rw [htext]
  exact ⟨hsome, rfl, scope_spell_iff (t := cleared o _)⟩

theorem map_behind_scope : ShowsSpelling { withoutConst := true } (mapUse 0) ∧
    (typeText { withoutConst := true } none (some (mapUse 0))).toList =
      ((mapUse 0).cleared { withoutConst := true }).scopedSpell ∧
    ((mapUse 0).cleared { withoutConst := true }).scopedSpell =
      "::ns::Map<const char*, vector<unsigned int> >*&".toList := by
  have h : ShowsSpelling { withoutConst := true } (mapUse 0) := ⟨.inl rfl, rfl, rfl, rfl⟩
  have hshown : (mapUse 0).shownIn (inGeneric none) = mapUse 0 := rfl
  obtain ⟨-, -, hiff⟩ := scope_in_front_of_name_iff hshown h
  exact ⟨h, hiff.2 (.inr rfl), by decide +kernel⟩

def constantWidget : TypeUse :=
  { entry := { handle := 1, kind := .object, name := "Widget" }
    reference := true, constant := true }

/-- Of a reference to a constant widget only the reference is left out. -/
theorem const_behind_scope : ShowsSpelling { withoutReference := true } constantWidget ∧
    typeText { withoutReference := true } none (some constantWidget) = "::const Widget" ∧
    (constantWidget.cleared { withoutReference := true }).scopedSpell =
      "const ::Widget".toList ∧
    "::const Widget" ≠ "const ::Widget" :=
  ⟨⟨.inr rfl, rfl, rfl, rfl⟩, by decide +kernel, by decide +kernel, by decide⟩

end TypeUse

end GlueCode
