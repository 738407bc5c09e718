import GlueCode.Proofs.SampleSearch
import Mathlib.Data.List.Forall2
/-! # The constructor that a class is built by

A class without a declared sample is built by a call of one of its candidates. Which one it is, and
with which values, is said here without the order in which the search tries them: fewer arguments
come first, and of equally many those that were declared first. The candidates that a first pass can
call come before all that only a second one can. -/
namespace GlueCode

/-- Of the usable callables of a list, this one has the fewest arguments, and no other one with as
many stands in front of it. -/
def FirstByArity (fs : List Callable) (usable : Callable → Prop) (f : Callable) : Prop :=
  usable f ∧ ∃ front back, fs = front ++ f :: back ∧
    (∀ g ∈ front, usable g → f.arguments.length < g.arguments.length) ∧
    ∀ g ∈ back, usable g → f.arguments.length ≤ g.arguments.length

theorem FirstByArity.mem {fs : List Callable} {usable : Callable → Prop} {f : Callable}
    (h : FirstByArity fs usable f) : f ∈ fs := by
  obtain ⟨-, front, back, rfl, -⟩ := h
  exact List.mem_append_right _ List.mem_cons_self

section FindSome

variable {α β : Type} {p : α → Option β} {b : β}

theorem findSome_flatMap {γ : Type} (g : γ → List α) (l : List γ) :
    (l.flatMap g).findSome? p = l.findSome? fun x => (g x).findSome? p := by
  induction l with
  | nil => rfl
  | cons x l ih =>
    rw [List.flatMap_cons, List.findSome?_append, ih, List.findSome?_cons]
    cases (g x).findSome? p <;> rfl

theorem findSome_filter (q : α → Bool) (l : List α) :
    (l.filter q).findSome? p = l.findSome? fun x => if q x then p x else none := by
  induction l with
  | nil => rfl
  | cons x l ih =>
    by_cases hx : q x = true
    · simp [hx, ih, List.findSome?_cons]
    · simp [hx, ih]

theorem findSome_range {p : Nat → Option β} {most : Nat} :
    (List.range most).findSome? p = some b ↔
      ∃ n < most, p n = some b ∧ ∀ m < n, p m = none := by
  induction most with
  | zero => simp
  | succ most ih =>
    rw [List.range_succ, List.findSome?_append, Option.or_eq_some_iff, ih]
    simp only [List.findSome?_eq_none_iff, List.mem_range, List.findSome?_cons,
      List.findSome?_nil]
    constructor
    · rintro (⟨n, hn, h⟩ | ⟨hnone, h⟩)
      · exact ⟨n, by omega, h⟩
      · refine ⟨most, by omega, ?_, hnone⟩
        cases hp : p most with
        | none => simp [hp] at h
        | some b' => simpa [hp] using h
    · rintro ⟨n, hn, h, hnone⟩
      rcases Nat.lt_succ_iff_lt_or_eq.1 hn with hlt | rfl
      · exact .inl ⟨n, hlt, h, hnone⟩
      · exact .inr ⟨hnone, by simp [h]⟩

end FindSome

theorem firstByArity_iff {fs : List Callable} {usable : Callable → Prop} {f : Callable} :
    FirstByArity fs usable f ↔ usable f ∧
      (∀ g ∈ fs, usable g → f.arguments.length ≤ g.arguments.length) ∧
      ∃ front back, fs = front ++ f :: back ∧
        ∀ g ∈ front, usable g → g.arguments.length ≠ f.arguments.length := by
  constructor
  · rintro ⟨hf, front, back, rfl, hfront, hback⟩
    refine ⟨hf, fun g hg husable => ?_, front, back, rfl, fun g hg husable => ?_⟩
    · rcases List.mem_append.1 hg with hg | hg
      · exact Nat.le_of_lt (hfront g hg husable)
      · rcases List.mem_cons.1 hg with rfl | hg
        · exact Nat.le_refl _
        · exact hback g hg husable
    · exact Nat.ne_of_gt (hfront g hg husable)
  · rintro ⟨hf, hleast, front, back, rfl, hfront⟩
    refine ⟨hf, front, back, rfl, fun g hg husable => ?_, fun g hg husable => ?_⟩
    · exact Nat.lt_of_le_of_ne (hleast g (by simp [hg]) husable) (hfront g hg husable).symm
    · exact hleast g (by simp [hg]) husable

theorem findSome_byArity {p : Callable → Option Sample} {fs : List Callable} {s : Sample} :
    (byArity fs).findSome? p = some s ↔
      ∃ f, FirstByArity fs (fun g => (p g).isSome = true) f ∧ p f = some s := by
  have hnone : ∀ {g : Callable}, p g = none ↔ ¬(p g).isSome = true :=
    Option.not_isSome_iff_eq_none.symm
  simp only [byArity, findSome_flatMap, findSome_range, findSome_filter, decide_eq_true_eq,
    List.findSome?_eq_none_iff, ite_eq_right_iff, firstByArity_iff, hnone]
  constructor
  · rintro ⟨n, -, hfound, hfewer⟩
    obtain ⟨front, f, back, hsplit, hf, hfront⟩ := List.findSome?_eq_some_iff.1 hfound
    simp only [ite_eq_right_iff, Option.ite_none_right_eq_some, hnone] at hf hfront
    obtain ⟨rfl, hf⟩ := hf
    refine ⟨f, ⟨by simp [hf], fun g hg husable => ?_, front, back, hsplit, ?_⟩, hf⟩
    · by_contra hlt
      exact hfewer _ (Nat.lt_of_not_le hlt) g hg rfl husable
    · exact fun g hg husable hlength => hfront g hg hlength husable
  · rintro ⟨f, ⟨-, hleast, front, back, hsplit, hfront⟩, hf⟩
    have hmem : f ∈ byArity fs := mem_byArity.2 (by simp [hsplit])
    simp only [byArity, List.mem_flatMap, List.mem_range, List.mem_filter, decide_eq_true_eq]
      at hmem
    obtain ⟨n, hn, -, rfl⟩ := hmem
    refine ⟨f.arguments.length, hn, List.findSome?_eq_some_iff.2 ⟨front, f, back, hsplit,
      by simp [hf], fun g hg => ?_⟩, fun m hm g hg hlength husable => ?_⟩
    · rw [ite_eq_right_iff, hnone]
      exact fun hlength husable => hfront g hg husable hlength
    · have := hleast g hg husable
      omega

/-- The type of the argument is known and has another entry than the class that is built. -/
structure Argument.IsForeign (own : Entry) (a : Argument) : Prop where
  known : a.type.isKnown = true
  other : a.type.entry ≠ own

/-- The values of a first pass. Arguments are given the samples of their types, which are built-in
types, enums or pointers. The first argument with a default value ends the call; it is given only a
default value that stands in place of the wrapped one. -/
inductive ShortValues (api : Api) (own : Entry) : List Argument → List Sample → Prop where
  | nil : ShortValues api own [] []
  | kept {a : Argument} {later : List Argument} (ha : a.IsForeign own)
      (hdefault : a.libraryDefault ≠ "") (h : a.default = "" ∨ a.default = a.libraryDefault) : ShortValues api own (a :: later) []
  | replaced {a : Argument} {later : List Argument} (ha : a.IsForeign own)
      (hdefault : a.libraryDefault ≠ "") (hset : a.default ≠ "")
      (h : a.default ≠ a.libraryDefault) :
      ShortValues api own (a :: later) [.declared a.default]
  | given {a : Argument} {later : List Argument} {s : Sample} {values : List Sample}
      (ha : a.IsForeign own) (hdefault : a.libraryDefault = "")
      (hdirect : a.type.entry.isBuiltin = true ∨ a.type.entry.isEnum = true ∨
        a.type.isPointer = true)
      (hs : (api.sampleType a.type).value = some s) (h : ShortValues api own later values) :
      ShortValues api own (a :: later) (s :: values)

/-- A type has this sample while the search for a class is in progress. -/
def SampledWithin (api : Api) (c : ClassDecl) (t : TypeUse) (s : Sample) : Prop :=
  ∃ found, (∀ d ∈ api.classes, Searched api [c] d (found d)) ∧
    (api.sampleTypeWith found t).value = some s

def FullValues (api : Api) (c : ClassDecl) : List Argument → List Sample → Prop :=
  List.Forall₂ fun a s => a.IsForeign c.entry ∧ SampledWithin api c a.type s

def Callable.UsableWith (gives : List Argument → List Sample → Prop) (f : Callable) : Prop :=
  ∃ values ≠ [], gives f.arguments values

variable {api : Api} {c : ClassDecl} {own : Entry} {f : Callable} {s : Sample}
  {arguments : List Argument} {values : List Sample}

theorem shortValues_default {a : Argument} {later : List Argument}
    (hdefault : a.libraryDefault ≠ "") :
    ShortValues api own (a :: later) values ↔ a.IsForeign own ∧ values = a.overridden?.toList := by
  by_cases hset : a.default ≠ "" ∧ a.default ≠ a.libraryDefault
  · have hvalue : a.overridden?.toList = [.declared a.default] := by
      simp [Argument.overridden?, hset]
    rw [hvalue]
    constructor
    · intro h
      cases h with
      | kept ha _ h => exact absurd h (by simpa [not_or] using hset)
      | replaced ha => exact ⟨ha, rfl⟩
      | given _ hnone => exact absurd hnone hdefault
    · rintro ⟨ha, rfl⟩
      exact .replaced ha hdefault hset.1 hset.2
  · have hvalue : a.overridden?.toList = [] := by
      simp only [Argument.overridden?, Bool.and_eq_true, decide_eq_true_eq, hset]
      rfl
    rw [hvalue]
    constructor
    · intro h
      cases h with
      | kept ha => exact ⟨ha, rfl⟩
      | replaced _ _ hne h => exact absurd ⟨hne, h⟩ hset
      | given _ hnone => exact absurd hnone hdefault
    · rintro ⟨ha, rfl⟩
      refine .kept ha hdefault ?_
      by_contra h
      exact hset (by simpa [not_or] using h)

theorem shortValues_iff (found : ClassDecl → Traced (Option Sample)) :
    (simpleSamples own (api.sampleTypeWith found) arguments).value = some values ↔
      ShortValues api own arguments values := by
  rw [simpleSamples_eq found (api.sampleClassAt api.searchDepth [])]
  change (simpleSamples own api.sampleType arguments).value = some values ↔ _
  induction arguments generalizing values with
  | nil =>
    rw [simpleSamples, Traced.value_pure, Option.some.injEq]
    constructor
    · rintro rfl
      exact .nil
    · rintro ⟨⟩
      rfl
  | cons a later ih =>
    have hother : ∀ h : ShortValues api own (a :: later) values, a.IsForeign own := by
      rintro (_ | ⟨ha⟩ | ⟨ha⟩ | ⟨ha⟩) <;> exact ha
    rw [simpleSamples]
    split_ifs with hk he hd hb
    · refine iff_of_false (by simp [Traced.stop]) fun h => ?_
      simp [(hother h).known] at hk
    · exact iff_of_false (by simp) fun h => (hother h).other he
    · have ha : a.IsForeign own := ⟨by simpa using hk, he⟩
      rw [shortValues_default hd, Traced.value_pure, Option.some.injEq, eq_comm]
      simp [ha]
    · have ha : a.IsForeign own := ⟨by simpa using hk, he⟩
      rw [Traced.value_bind]
      constructor
      · intro h
        cases hs : (api.sampleType a.type).value with
        | none => simp [hs] at h
        | some s =>
          simp only [hs, Traced.value_bind, Traced.value_pure, Option.map_eq_some_iff] at h
          obtain ⟨rest, hrest, rfl⟩ := h
          exact .given ha (by simpa using hd) (by simpa [or_assoc] using hb) hs (ih.1 hrest)
      · intro h
        cases h with
        | kept _ hdefault => exact absurd hdefault hd
        | replaced _ hdefault => exact absurd hdefault hd
        | given _ _ _ hs hrest => simp [hs, ih.2 hrest]
    · refine iff_of_false (by simp) fun h => ?_
      cases h with
      | kept _ hdefault => exact absurd hdefault hd
      | replaced _ hdefault => exact absurd hdefault hd
      | given _ _ hdirect => exact hb (by simpa [or_assoc] using hdirect)

theorem samplesOfAll_eq_some_iff {ofType : TypeUse → Traced (Option Sample)} :
    (samplesOfAll own ofType arguments).value = some values ↔
      List.Forall₂ (fun a s => a.IsForeign own ∧ (ofType a.type).value = some s)
        arguments values := by
  induction arguments generalizing values with
  | nil =>
    rw [samplesOfAll, Traced.value_pure, Option.some.injEq, List.forall₂_nil_left_iff, eq_comm]
  | cons a later ih =>
    rw [samplesOfAll, List.forall₂_cons_left_iff]
    split_ifs with hk he
    · refine iff_of_false (by simp [Traced.stop]) ?_
      rintro ⟨s, rest, ⟨ha, -⟩, -⟩
      simp [ha.known] at hk
    · refine iff_of_false (by simp) ?_
      rintro ⟨s, rest, ⟨ha, -⟩, -⟩
      exact ha.other he
    · have ha : a.IsForeign own := ⟨by simpa using hk, he⟩
      rw [Traced.value_bind]
      cases hs : (ofType a.type).value with
      | none => simp
      | some s =>
        simp only [Traced.value_bind, Traced.value_pure, Option.map_eq_some_iff, ih]
        constructor
        · rintro ⟨rest, hrest, rfl⟩
          exact ⟨s, rest, ⟨ha, rfl⟩, hrest, rfl⟩
        · rintro ⟨_, rest, ⟨-, ⟨⟩⟩, hrest, rfl⟩
          exact ⟨rest, hrest, rfl⟩

theorem sampledWithin_iff {t : TypeUse} : SampledWithin api c t s ↔
    (api.sampleTypeWith (api.sampleClassAt (api.classes.length + 1) [c]) t).value = some s := by
  have hsearched : ∀ d ∈ api.classes,
      Searched api [c] d (api.sampleClassAt (api.classes.length + 1) [c] d) :=
    fun d hd => searched_of_depth hd (Nat.lt_succ_of_le (List.length_filter_le _ _))
  constructor
  · rintro ⟨found, hfound, hs⟩
    rwa [sampleTypeWith_congr fun d hd => searched_unique (hsearched d hd) (hfound d hd)]
  · exact fun hs => ⟨_, hsearched, hs⟩

theorem fullValues_iff :
    (samplesOfAll c.entry
      (api.sampleTypeWith (api.sampleClassAt (api.classes.length + 1) [c])) arguments).value =
      some values ↔ FullValues api c arguments values := by
  rw [samplesOfAll_eq_some_iff, FullValues]
  simp only [sampledWithin_iff]

theorem SampledWithin.sampleType_isSome {t : TypeUse} (h : SampledWithin api c t s) :
    (api.sampleType t).value.isSome = true := by
  obtain ⟨found, hfound, hs⟩ := h
  have hfrom := sampleTypeWith_isSome.1 (Option.isSome_of_eq_some hs)
  rw [GlueCode.sampleType_isSome, buildable_type_iff]
  exact hfrom.mono fun d hd hvalue => buildable_of_searched (hfound d hd) hvalue

theorem FullValues.sampleType_isSome (h : FullValues api c arguments values) :
    ∀ a ∈ arguments, (api.sampleType a.type).value.isSome = true := by
  induction h with
  | nil => simp
  | cons ha _ ih => exact List.forall_mem_cons.2 ⟨ha.2.sampleType_isSome, ih⟩

def DefaultsTrail (arguments : List Argument) : Prop :=
  arguments.Pairwise fun a b => a.libraryDefault ≠ "" → b.libraryDefault ≠ ""

instance (arguments : List Argument) : Decidable (DefaultsTrail arguments) :=
  inferInstanceAs (Decidable (List.Pairwise _ _))

theorem ShortValues.rest_default (h : ShortValues api own arguments values)
    (htrail : DefaultsTrail arguments) :
    ∀ a ∈ arguments.drop values.length, a.libraryDefault ≠ "" := by
  induction h with
  | nil => simp
  | kept _ hdefault =>
    obtain ⟨hlater, -⟩ := List.pairwise_cons.1 htrail
    simpa using ⟨hdefault, fun b hb => hlater b hb hdefault⟩
  | replaced _ hdefault =>
    obtain ⟨hlater, -⟩ := List.pairwise_cons.1 htrail
    simpa using fun b hb => hlater b hb hdefault
  | given _ _ _ _ _ ih =>
    obtain ⟨-, htrail⟩ := List.pairwise_cons.1 htrail
    simpa using ih htrail

/-! ## The call -/

inductive ClassDecl.CalledWith (api : Api) (c : ClassDecl) : List Sample → Prop where
  | noArguments {f : Callable} (hf : f ∈ c.candidates) (h : f.arguments = []) : CalledWith api c []
  | short {f : Callable} {values : List Sample} (hsome : ∀ g ∈ c.candidates, g.arguments ≠ [])
      (hfirst : FirstByArity c.candidates (·.UsableWith (ShortValues api c.entry)) f)
      (hvalues : values ≠ []) (h : ShortValues api c.entry f.arguments values) :
      CalledWith api c values
  | full {f : Callable} {values : List Sample} (hsome : ∀ g ∈ c.candidates, g.arguments ≠ [])
      (hnone : ∀ g ∈ c.candidates, ¬g.UsableWith (ShortValues api c.entry))
      (hfirst : FirstByArity c.candidates (·.UsableWith (FullValues api c)) f)
      (hvalues : values ≠ []) (h : FullValues api c f.arguments values) : CalledWith api c values

theorem call?_eq_some_iff {found : Option (List Sample)} : c.call? found = some s ↔
    ∃ values ≠ [], found = some values ∧ s = .build c.qualifiedName values := by
  match found with
  | none => simp [ClassDecl.call?]
  | some [] => simp [ClassDecl.call?]
  | some (v :: rest) => simp [ClassDecl.call?, eq_comm]

section Pass

variable {gives : List Argument → List Sample → Prop}
  {valuesOf : List Argument → Traced (Option (List Sample))}
  (h : ∀ arguments values, (valuesOf arguments).value = some values ↔ gives arguments values)

include h

theorem callOf_eq_some_iff : (c.call? <$> valuesOf f.arguments).value = some s ↔
    ∃ values ≠ [], gives f.arguments values ∧ s = .build c.qualifiedName values := by
  change c.call? _ = some s ↔ _
  simp only [call?_eq_some_iff, h]

theorem callOf_isSome : (c.call? <$> valuesOf f.arguments).value.isSome = true ↔
    f.UsableWith gives := by
  simp only [Option.isSome_iff_exists, callOf_eq_some_iff h]
  constructor
  · rintro ⟨_, values, hvalues, hgives, -⟩
    exact ⟨values, hvalues, hgives⟩
  · rintro ⟨values, hvalues, hgives⟩
    exact ⟨_, values, hvalues, hgives, rfl⟩

theorem pass_eq_some_iff {fs : List Callable} :
    (Traced.firstSome (fun f : Callable => c.call? <$> valuesOf f.arguments)
      (byArity fs)).value = some s ↔
      ∃ f, FirstByArity fs (·.UsableWith gives) f ∧
        ∃ values ≠ [], gives f.arguments values ∧ s = .build c.qualifiedName values := by
  rw [Traced.value_firstSome, findSome_byArity]
  simp only [callOf_isSome h, callOf_eq_some_iff h]

theorem pass_eq_none_iff {fs : List Callable} :
    (Traced.firstSome (fun f : Callable => c.call? <$> valuesOf f.arguments)
      (byArity fs)).value = none ↔ ∀ f ∈ fs, ¬f.UsableWith gives := by
  simp only [Traced.value_firstSome, List.findSome?_eq_none_iff, mem_byArity]
  refine forall₂_congr fun f _ => ?_
  rw [← callOf_isSome (c := c) h, Option.not_isSome_iff_eq_none]

end Pass

theorem sampleWith_noArguments {ofType : TypeUse → Traced (Option Sample)} (hf : f ∈ c.candidates)
    (h : f.arguments = []) : (c.sampleWith ofType).value = some (.build c.qualifiedName []) := by
  have hany : c.candidates.any (·.arguments.isEmpty) = true :=
    List.any_eq_true.2 ⟨f, hf, List.isEmpty_iff.2 h⟩
  have hne : ¬c.candidates.isEmpty = true := by
    rw [List.isEmpty_iff]
    exact List.ne_nil_of_mem hf
  unfold ClassDecl.sampleWith
  dsimp only
  rw [if_neg hne, if_pos hany]
  rfl

theorem sampleWith_passes {ofType : TypeUse → Traced (Option Sample)}
    (hsome : ∀ g ∈ c.candidates, g.arguments ≠ []) : (c.sampleWith ofType).value =
      (Traced.firstSome (fun f : Callable => c.call? <$> simpleSamples c.entry ofType f.arguments)
        (byArity c.candidates)).value.or
      (Traced.firstSome (fun f : Callable => c.call? <$> samplesOfAll c.entry ofType f.arguments)
        (byArity c.candidates)).value := by
  have hany : ¬c.candidates.any (·.arguments.isEmpty) = true := by
    intro h
    obtain ⟨g, hg, hargs⟩ := List.any_eq_true.1 h
    exact hsome g hg (List.isEmpty_iff.1 hargs)
  unfold ClassDecl.sampleWith
  dsimp only
  split_ifs with he
  · rw [List.isEmpty_iff.1 he]
    rfl
  · rw [Traced.value_bind]
    split
    · next s hs => rw [hs]; rfl
    · next hnone =>
      rw [hnone, Option.none_or, Traced.value_bind]
      split
      · next s hs => rw [hs]; rfl
      · next hnone => rw [hnone]; rfl

theorem sampleWith_eq_some_iff :
    (c.sampleWith (api.sampleTypeWith
      (api.sampleClassAt (api.classes.length + 1) [c]))).value = some s ↔
      ∃ values, c.CalledWith api values ∧ s = .build c.qualifiedName values := by
  let found := api.sampleTypeWith (api.sampleClassAt (api.classes.length + 1) [c])
  change (c.sampleWith found).value = some s ↔ _
  have hshort : ∀ arguments values, (simpleSamples c.entry found arguments).value = some values ↔
      ShortValues api c.entry arguments values := fun _ _ => shortValues_iff _
  have hfull : ∀ arguments values, (samplesOfAll c.entry found arguments).value = some values ↔
      FullValues api c arguments values := fun _ _ => fullValues_iff
  by_cases hno : ∃ f ∈ c.candidates, f.arguments = []
  · obtain ⟨f, hf, hargs⟩ := hno
    rw [sampleWith_noArguments hf hargs, Option.some.injEq]
    constructor
    · rintro rfl
      exact ⟨[], .noArguments hf hargs, rfl⟩
    · rintro ⟨values, h, rfl⟩
      cases h with
      | noArguments => rfl
      | short hsome => exact absurd hargs (hsome f hf)
      | full hsome => exact absurd hargs (hsome f hf)
  · have hsome : ∀ g ∈ c.candidates, g.arguments ≠ [] := fun g hg h => hno ⟨g, hg, h⟩
    rw [sampleWith_passes hsome, Option.or_eq_some_iff, pass_eq_some_iff hshort,
      pass_eq_none_iff hshort, pass_eq_some_iff hfull]
    constructor
    · rintro (⟨f, hfirst, values, hvalues, h, rfl⟩ | ⟨hnone, f, hfirst, values, hvalues, h, rfl⟩)
      · exact ⟨values, .short hsome hfirst hvalues h, rfl⟩
      · exact ⟨values, .full hsome hnone hfirst hvalues h, rfl⟩
    · rintro ⟨values, h, rfl⟩
      cases h with
      | noArguments hf h => exact absurd h (hsome _ hf)
      | short _ hfirst hvalues h => exact .inl ⟨_, hfirst, values, hvalues, h, rfl⟩
      | full _ hnone hfirst hvalues h => exact .inr ⟨hnone, _, hfirst, values, hvalues, h, rfl⟩

/-- A class without a declared sample has one just where a call of it can be made, and then it is
this call. -/
theorem sampleClass_eq_some_iff (hdeclared : c.entry.declaredSample? = none) :
    (api.sampleClass c).value = some s ↔
      ∃ values, c.CalledWith api values ∧ s = .build c.qualifiedName values := by
  rw [Api.sampleClass, Api.searchDepth, Api.sampleClassAt, hdeclared]
  simp only [List.not_mem_nil, if_false]
  exact sampleWith_eq_some_iff

/-- A class is built without arguments if a candidate has none. Otherwise the call is one of the
first candidate, by the number of arguments and then by place, that a first pass can call, or, if it
can call none, of the first one that a second pass can call. A first pass leaves out arguments after
the first one with a default value; a second one leaves out none, and all types of its arguments
have samples. -/
theorem constructor_choice (api : Api) (c : ClassDecl) (s : Sample)
    (hdeclared : c.entry.declaredSample? = none) (hs : (api.sampleClass c).value = some s) :
    ((∃ f ∈ c.candidates, f.arguments = []) → s.text = "::" ++ c.qualifiedName ++ "()") ∧
      ((∀ f ∈ c.candidates, f.arguments ≠ []) → ∃ f values, values ≠ [] ∧
        s.text = "::" ++ c.qualifiedName ++ "(" ++ Text.commaList (values.map Sample.text) ++ ")" ∧
        (FirstByArity c.candidates (·.UsableWith (ShortValues api c.entry)) f ∧
            ShortValues api c.entry f.arguments values ∧
            (DefaultsTrail f.arguments →
              ∀ a ∈ f.arguments.drop values.length, a.libraryDefault ≠ "") ∨
          (∀ g ∈ c.candidates, ¬g.UsableWith (ShortValues api c.entry)) ∧
            FirstByArity c.candidates (·.UsableWith (FullValues api c)) f ∧
            FullValues api c f.arguments values ∧ values.length = f.arguments.length ∧
            ∀ a ∈ f.arguments, (api.sampleType a.type).value.isSome = true)) := by
  obtain ⟨values, hcall, rfl⟩ := (sampleClass_eq_some_iff hdeclared).1 hs
  cases hcall with
  | noArguments hf h =>
    refine ⟨fun _ => ?_, fun hsome => absurd h (hsome _ hf)⟩
    rw [Sample.text_build, String.append_assoc, String.append_assoc, String.append_assoc]
    rfl
  | short hsome hfirst hvalues h =>
    refine ⟨fun ⟨g, hg, hargs⟩ => absurd hargs (hsome g hg), fun _ => ?_⟩
    exact ⟨_, values, hvalues, Sample.text_build _ _, .inl ⟨hfirst, h, h.rest_default⟩⟩
  | full hsome hnone hfirst hvalues h =>
    refine ⟨fun ⟨g, hg, hargs⟩ => absurd hargs (hsome g hg), fun _ => ?_⟩
    exact ⟨_, values, hvalues, Sample.text_build _ _,
      .inr ⟨hnone, hfirst, h, h.length_eq.symm, FullValues.sampleType_isSome h⟩⟩

def glassEntry : Entry := { handle := 11, kind := .value, name := "Glass" }

def wholeArgument (name libraryDefault default : String) : Argument where
  name
  type := { entry := { handle := 10, kind := .builtin, name := "int" } }
  libraryDefault
  default

def lensConstructor : Callable where
  handle := 2
  name := "Lens"
  isConstructor := true
  arguments :=
    [wholeArgument "focus" "" "", wholeArgument "width" "4" "6", wholeArgument "depth" "2" "2"]

def lensClass : ClassDecl where
  handle := 12
  name := "Lens"
  entry := { handle := 12, kind := .value, name := "Lens" }
  functions :=
    [{ lensConstructor with handle := 1, isPrivate := true, arguments := [] },
      { lensConstructor with
        handle := 3
        arguments := lensConstructor.arguments ++ [wholeArgument "tint" "9" ""] },
      lensConstructor,
      { lensConstructor with
        handle := 4
        arguments := lensConstructor.arguments.map fun a => wholeArgument a.name "" "" },
      constructorFrom glassEntry]

def glassClass : ClassDecl where
  handle := 11
  name := "Glass"
  entry := glassEntry
  functions := [{ handle := 5, name := "Glass", isConstructor := true }]

def lenses : Api := { classes := [lensClass, glassClass] }

theorem lens_constructor_choice : lensClass.entry.declaredSample? = none ∧
    (∀ f ∈ lensClass.candidates, f.arguments ≠ [] ∧ DefaultsTrail f.arguments) ∧
    ∃ s, (lenses.sampleClass lensClass).value = some s ∧ s.text = "::Lens(((int)0), 6)" ∧
      ∃ f values, FirstByArity lensClass.candidates
          (·.UsableWith (ShortValues lenses lensClass.entry)) f ∧
        ShortValues lenses lensClass.entry f.arguments values ∧
        ∀ a ∈ f.arguments.drop values.length, a.libraryDefault ≠ "" := by
  have hdeclared : lensClass.entry.declaredSample? = none := by decide
  have hcandidates : ∀ f ∈ lensClass.candidates, f.arguments ≠ [] ∧ DefaultsTrail f.arguments := by
    decide +kernel
  have husable : lensConstructor.UsableWith (ShortValues lenses lensClass.entry) := by
    refine ⟨[_, .declared "6"], by simp, .given ⟨rfl, by decide⟩ rfl (.inl rfl) rfl ?_⟩
    exact .replaced ⟨rfl, by decide⟩ (by decide) (by decide) (by decide)
  have hs : (lenses.sampleClass lensClass).value = some (.build "Lens"
      [.cast (wholeArgument "" "" "").type.entry false false, .declared "6"]) := by rfl
  obtain ⟨-, hcall⟩ := constructor_choice lenses lensClass _ hdeclared hs
  obtain ⟨f, values, -, -, ⟨hfirst, h, hrest⟩ | ⟨hnone, -⟩⟩ :=
    hcall fun f hf => (hcandidates f hf).1
  · have hf : f ∈ lensClass.candidates := by
      obtain ⟨-, front, back, hsplit, -⟩ := hfirst
      simp [hsplit]
    exact ⟨hdeclared, hcandidates, _, hs, by decide +kernel, f, values, hfirst, h,
      hrest (hcandidates f hf).2⟩
  · exact absurd husable (hnone lensConstructor (by decide +kernel))

end GlueCode
