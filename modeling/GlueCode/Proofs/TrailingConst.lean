import GlueCode.Text.Identifier
import GlueCode.TypeText
/-! # Const left out of types as first written

A type as it was first written loses its last `const` when at most one character follows it,
wherever that `const` stands. It may be the end of a longer name, and with a closing bracket behind
it it may belong to a template argument. Apart from these two situations a trailing keyword goes,
and all else stays. -/
namespace GlueCode

namespace TypeUse

variable {cs before after before' after' : List Char} {o : TextOptions} {t : TypeUse}

/-- A description without the blanks around it, less a final ampersand where references are left
out. -/
def keptDescription (o : TextOptions) (t : TypeUse) : List Char :=
  let cs := Text.trim t.description.toList
  if o.withoutReference then dropTrailingReference cs else cs

def writtenIn (o : TextOptions) (context : Option ClassHead) (t : TypeUse) : List Char :=
  (t.shownIn (inGeneric context)).keptDescription o

/-- The options ask for the description, and the type is neither an array nor an enum that is
written as an integer. -/
structure ShowsDescription (o : TextOptions) (t : TypeUse) : Prop where
  asWritten : o.asWritten = true
  notArray : t.isArray = false
  notInteger : (o.enumsAsInts && (t.isEnum || t.isFlags)) = false

theorem typeText_description {context : Option ClassHead}
    (h : ShowsDescription o (t.shownIn (inGeneric context))) (hconst : o.withoutConst = true) :
    hasTypeText o context (some t) = true ∧
      (typeText o context (some t)).toList = dropTrailingConst (t.writtenIn o context) := by
  have helement : (t.shownIn (inGeneric context)).element = none := by
    simpa [isArray] using h.notArray
  constructor
  · rw [hasTypeText, hasTextIn_eq, hasTextAsIs_leaf helement, leafHasText, h.asWritten]
    simp
  · rw [typeText, String.toList_ofList, textIn_eq, textAsIs_leaf helement, leafText,
      if_neg (by simp [h.notInteger]), if_pos h.asWritten, trimDescription, if_pos hconst]
    rfl

/-- The text ends with `const`, but for one character at most. -/
def EndsInConst (cs before after : List Char) : Prop :=
  cs = before ++ (constWord ++ after) ∧ after.length ≤ 1

instance (cs before after : List Char) : Decidable (EndsInConst cs before after) :=
  inferInstanceAs (Decidable (_ ∧ _))

/-- No character of an identifier touches what stands between the two texts. -/
def IsWord (before after : List Char) : Prop :=
  before.getLast?.any Text.isIdentifierRest = false ∧
    after.head?.any Text.isIdentifierRest = false

instance (before after : List Char) : Decidable (IsWord before after) :=
  inferInstanceAs (Decidable (_ ∧ _))

def openLists (cs : List Char) : Nat :=
  cs.foldl (fun n c => if c = '<' then n + 1 else if c = '>' then n - 1 else n) 0

/-- What stands between the two texts is in a template argument list: one is open in front of it,
and is closed behind it. -/
def InList (before after : List Char) : Prop :=
  0 < openLists before ∧ ∃ inner rest, after = inner ++ '>' :: rest ∧ openLists inner = 0

def IsOuterWord (before after : List Char) : Prop := IsWord before after ∧ ¬InList before after

/-- The text lost a trailing `const` that is an outer word, and nothing else. -/
def LosesOuterConst (cs text : List Char) : Prop :=
  ∃ before after, EndsInConst cs before after ∧ IsOuterWord before after ∧ text = before ++ after

theorem const_not_shifted (h : before ++ (constWord ++ after) = before' ++ (constWord ++ after')) :
    before'.length ≠ before.length + 1 := by
  intro hlength
  have hsecond : (before ++ (constWord ++ after))[before.length + 1]? = some 'o' := by
    rw [List.getElem?_append_right (Nat.le_succ _), Nat.succ_sub (Nat.le_refl _), Nat.sub_self]
    rfl
  have hfirst : (before' ++ (constWord ++ after'))[before.length + 1]? = some 'c' := by
    rw [← hlength, List.getElem?_append_right (Nat.le_refl _), Nat.sub_self]
    rfl
  rw [h, hfirst] at hsecond
  cases hsecond

theorem EndsInConst.unique (h : EndsInConst cs before after)
    (h' : EndsInConst cs before' after') : before = before' ∧ after = after' := by
  obtain ⟨hsplit, hshort⟩ := h
  obtain ⟨hsplit', hshort'⟩ := h'
  have hsame := hsplit.symm.trans hsplit'
  have hlengths := congrArg List.length hsame
  simp only [List.length_append] at hlengths
  have hafter := const_not_shifted hsame
  have hbefore := const_not_shifted hsame.symm
  have hlength : before.length = before'.length := by omega
  obtain ⟨hfront, hback⟩ := List.append_inj hsame hlength
  exact ⟨hfront, List.append_cancel_left hback⟩

theorem EndsInConst.lastIndexOf? (h : EndsInConst cs before after) :
    lastIndexOf? constWord cs = some before.length := by
  obtain ⟨rfl, hshort⟩ := h
  cases hlast : TypeUse.lastIndexOf? constWord (before ++ (constWord ++ after)) with
  | none =>
    have hinfix : constWord <:+: before ++ (constWord ++ after) :=
      ⟨before, after, List.append_assoc _ _ _⟩
    exact absurd hinfix (lastIndexOf?_eq_none_iff.1 hlast)
  | some i =>
    obtain ⟨⟨before', after', hsplit, rfl⟩, hlatest⟩ := lastIndexOf?_some hlast
    have hle := hlatest before after rfl
    have hlengths := congrArg List.length hsplit
    simp only [List.length_append] at hlengths
    have hends : EndsInConst (before ++ (constWord ++ after)) before' after' :=
      ⟨hsplit, by omega⟩
    rw [(hends.unique ⟨rfl, hshort⟩).1]

theorem dropTrailingConst_of_ends (h : EndsInConst cs before after) :
    dropTrailingConst cs = before ++ after := by
  obtain ⟨hsplit, hshort⟩ := h
  have hlength : cs.length = before.length + (5 + after.length) := by
    rw [hsplit, List.length_append, List.length_append]
    rfl
  have hfront : cs.take before.length = before := by rw [hsplit, List.take_left]
  have hback : cs.drop (before.length + 5) = after := by
    rw [hsplit, ← List.append_assoc]
    exact List.drop_left' (by simp [constWord])
  rw [dropTrailingConst, EndsInConst.lastIndexOf? ⟨hsplit, hshort⟩]
  simp only
  rw [if_pos (by omega), hfront, hback]

theorem dropTrailingConst_of_not_ends (h : ∀ before after, ¬EndsInConst cs before after) :
    dropTrailingConst cs = cs := by
  rw [dropTrailingConst]
  cases hlast : TypeUse.lastIndexOf? constWord cs with
  | none => rfl
  | some i =>
    obtain ⟨⟨before, after, hsplit, rfl⟩, -⟩ := lastIndexOf?_some hlast
    have hlong : ¬after.length ≤ 1 := fun hshort => h before after ⟨hsplit, hshort⟩
    have hlength : cs.length = before.length + (5 + after.length) := by
      rw [hsplit, List.length_append, List.length_append]
      rfl
    simp only
    rw [if_neg (by omega)]

theorem EndsInConst.ne (h : EndsInConst cs before after) : before ++ after ≠ cs := by
  intro hsame
  have hlengths := congrArg List.length (hsame.trans h.1)
  simp only [List.length_append, constWord, List.length_cons, List.length_nil] at hlengths
  omega

/-- The text is as it was, or lost an outer word, unless it ends in a `const` that is none. -/
theorem dropTrailingConst_iff :
    (dropTrailingConst cs = cs ∨ LosesOuterConst cs (dropTrailingConst cs)) ↔
      ∀ before after, EndsInConst cs before after → IsOuterWord before after := by
  constructor
  · intro h before after hends
    rw [dropTrailingConst_of_ends hends] at h
    rcases h with hsame | ⟨before', after', hends', hword, -⟩
    · exact absurd hsame hends.ne
    · obtain ⟨rfl, rfl⟩ := hends.unique hends'
      exact hword
  · intro h
    by_cases hends : ∃ before after, EndsInConst cs before after
    · obtain ⟨before, after, hends⟩ := hends
      exact .inr ⟨before, after, hends, h before after hends, dropTrailingConst_of_ends hends⟩
    · left
      apply dropTrailingConst_of_not_ends
      intro before after hends'
      exact hends ⟨before, after, hends'⟩

/-- Behind a `const` that ends a text there is room for one bracket only. -/
theorem inList_iff (hshort : after.length ≤ 1) :
    InList before after ↔ 0 < openLists before ∧ after = ['>'] := by
  constructor
  · rintro ⟨hopen, inner, rest, rfl, -⟩
    simp only [List.length_append, List.length_cons] at hshort
    have hinner : inner = [] := List.length_eq_zero_iff.1 (by omega)
    have hrest : rest = [] := List.length_eq_zero_iff.1 (by omega)
    exact ⟨hopen, by rw [hinner, hrest, List.nil_append]⟩
  · rintro ⟨hopen, rfl⟩
    exact ⟨hopen, [], [], rfl, rfl⟩

/-- A type as it was first written, without const. There is a text: what was written less a trailing
`const`, or all of it when it ends in none. So the text lost nothing but a keyword outside all
template arguments just when every `const` that it ended with is one. -/
theorem const_left_out_iff {context : Option ClassHead}
    (h : ShowsDescription o (t.shownIn (inGeneric context))) (hconst : o.withoutConst = true) :
    hasTypeText o context (some t) = true ∧
      (∀ before after, EndsInConst (t.writtenIn o context) before after →
        (typeText o context (some t)).toList = before ++ after) ∧
      ((∀ before after, ¬EndsInConst (t.writtenIn o context) before after) →
        (typeText o context (some t)).toList = t.writtenIn o context) ∧
      ((typeText o context (some t)).toList = t.writtenIn o context ∨
          LosesOuterConst (t.writtenIn o context) (typeText o context (some t)).toList ↔
        ∀ before after, EndsInConst (t.writtenIn o context) before after →
          IsOuterWord before after) := by
  obtain ⟨hsome, htext⟩ := typeText_description h hconst
  rw [htext]
  refine ⟨hsome, fun before after hends => dropTrailingConst_of_ends hends, ?_,
    dropTrailingConst_iff⟩
  exact dropTrailingConst_of_not_ends

def bareOptions : TextOptions :=
  { asWritten := true, withoutConst := true, withoutReference := true }

def described (description : String) : TypeUse :=
  { entry := { handle := 1, kind := .value, name := "List" }, description }

theorem described_shows (description : String) :
    ShowsDescription bareOptions ((described description).shownIn (inGeneric none)) :=
  ⟨rfl, rfl, rfl⟩

theorem outer_const_left_out :
    (typeText bareOptions none (some (described " List<int const> const& "))).toList =
        "List<int const> ".toList ∧
      LosesOuterConst "List<int const> const".toList "List<int const> ".toList := by
  have hwritten : (described " List<int const> const& ").writtenIn bareOptions none =
      "List<int const> const".toList := by decide +kernel
  have hends : EndsInConst "List<int const> const".toList "List<int const> ".toList [] := by
    decide +kernel
  have hword : IsOuterWord "List<int const> ".toList [] := by
    refine ⟨by decide +kernel, ?_⟩
    have hshort : ([] : List Char).length ≤ 1 := Nat.zero_le 1
    simp [inList_iff hshort]
  obtain ⟨-, htext, -, hiff⟩ := const_left_out_iff (described_shows " List<int const> const& ") rfl
  rw [hwritten] at htext hiff
  have hlost := htext _ _ hends
  rw [List.append_nil] at hlost
  refine ⟨hlost, ?_⟩
  rw [hlost] at hiff
  refine (hiff.2 fun before after hends' => ?_).resolve_left (by decide +kernel)
  obtain ⟨rfl, rfl⟩ := hends.unique hends'
  exact hword

/-- A `const` inside template arguments is lost, and so is the end of a longer name. -/
theorem inner_const_lost :
    (typeText bareOptions none (some (described "List<int const>"))).toList =
        "List<int >".toList ∧
      ¬LosesOuterConst "List<int const>".toList "List<int >".toList ∧
      (typeText bareOptions none (some (described "myconst"))).toList = "my".toList ∧
      ¬LosesOuterConst "myconst".toList "my".toList := by
  have hlist : EndsInConst "List<int const>".toList "List<int ".toList ['>'] := by decide +kernel
  have hname : EndsInConst "myconst".toList "my".toList [] := by decide +kernel
  refine ⟨by decide +kernel, ?_, by decide +kernel, ?_⟩
  · rintro ⟨before, after, hends, ⟨-, hlisted⟩, -⟩
    obtain ⟨rfl, rfl⟩ := hlist.unique hends
    exact hlisted ((inList_iff hlist.2).2 ⟨by decide +kernel, rfl⟩)
  · rintro ⟨before, after, hends, ⟨⟨hfree, -⟩, -⟩, -⟩
    obtain ⟨rfl, rfl⟩ := hname.unique hends
    exact absurd hfree (by decide +kernel)

end TypeUse

end GlueCode
