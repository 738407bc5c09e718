import GlueCode.Sample.Search
import Mathlib.Data.List.Basic
import Mathlib.Data.Nat.Init
/-! # What the search for samples finds

`Buildable` is the least set of targets that can be built at all, said without the search and its
classes in progress. `Searched` is the search without a bound on its depth: a derivation is a run
that ends. The search ends for every class, and a target has a sample exactly when it is buildable;
so refusing a class in progress loses nothing. Classes are ranked by the stage of the least set they
first appear in, and a class of some rank is built from classes of smaller rank only. -/
namespace GlueCode

def Api.directSamples (api : Api) (c : ClassDecl) (arguments : List Argument) :
    Option (List Sample) :=
  (simpleSamples c.entry (api.sampleTypeWith fun _ => pure none) arguments).value

/-- A reference to an object cannot be bound to a made-up value. -/
def TypeUse.Bindable (t : TypeUse) : Prop := ¬ (t.reference = true ∧ t.isObject = true)

inductive Buildable (api : Api) : Target → Prop where
  | container {t : TypeUse} (hb : t.Bindable) (h : t.isContainer = true) : Buildable api (.type t)
  | pointer {t : TypeUse} (hb : t.Bindable) (h : t.isPointer = true) : Buildable api (.type t)
  | plain {t : TypeUse} (hb : t.Bindable) (h : Buildable api (.entry t.entry)) :
      Buildable api (.type t)
  | declaredType {t : TypeUse} (hb : t.Bindable) (hc : t.entry.isComplex = true)
      (h : t.entry.hasDefaultConstructor = true) : Buildable api (.type t)
  | classType {t : TypeUse} {c : ClassDecl} (hb : t.Bindable) (hc : t.entry.isComplex = true)
      (hf : api.findClass t.entry = some c) (h : Buildable api (.cls c)) : Buildable api (.type t)
  | primitive {e : Entry} (h : e.isPrimitive = true) : Buildable api (.entry e)
  | enum {e : Entry} (h : e.isEnum = true) : Buildable api (.entry e)
  | flags {e : Entry} (h : e.isFlags = true) : Buildable api (.entry e)
  | declaredClass {c : ClassDecl} (h : c.entry.hasDefaultConstructor = true) :
      Buildable api (.cls c)
  | noArguments {c : ClassDecl} {f : Callable} (hf : f ∈ c.candidates) (h : f.arguments = []) :
      Buildable api (.cls c)
  | firstPass {c : ClassDecl} {f : Callable} {s : Sample} {rest : List Sample}
      (hf : f ∈ c.candidates) (h : api.directSamples c f.arguments = some (s :: rest)) :
      Buildable api (.cls c)
  | allArguments {c : ClassDecl} {f : Callable} (hf : f ∈ c.candidates)
      (hk : ∀ a ∈ f.arguments, a.type.isKnown = true ∧ a.type.entry ≠ c.entry)
      (h : ∀ a ∈ f.arguments, Buildable api (.type a.type)) : Buildable api (.cls c)

/-- A run of the search with the classes of `busy` in progress. It looks up every class it could
need, also those that a search that stops at the first constructor does not come to. -/
inductive Searched (api : Api) : List ClassDecl → ClassDecl → Traced (Option Sample) → Prop where
  | declared {busy : List ClassDecl} {c : ClassDecl} {text : String}
      (h : c.entry.declaredSample? = some text) :
      Searched api busy c (pure (some (.declared text)))
  | inProgress {busy : List ClassDecl} {c : ClassDecl} (h : c.entry.declaredSample? = none)
      (hb : c ∈ busy) : Searched api busy c (pure none)
  | search {busy : List ClassDecl} {c : ClassDecl} (h : c.entry.declaredSample? = none)
      (hb : c ∉ busy) (found : ClassDecl → Traced (Option Sample))
      (hf : ∀ d ∈ api.classes, Searched api (c :: busy) d (found d)) :
      Searched api busy c (c.sampleWith (api.sampleTypeWith found))

variable {api : Api}

theorem sampleTypeWith_congr {g g' : ClassDecl → Traced (Option Sample)}
    (h : ∀ d ∈ api.classes, g d = g' d) : api.sampleTypeWith g = api.sampleTypeWith g' := by
  funext t
  unfold Api.sampleTypeWith
  split_ifs
  all_goals try rfl
  cases t.entry.declaredSample? with
  | some text => rfl
  | none =>
    cases hc : api.findClass t.entry with
    | none => rfl
    | some c => exact h c (Api.mem_classes_of_findClass hc).1

theorem searched_unique {busy : List ClassDecl} {c : ClassDecl} {r r' : Traced (Option Sample)}
    (h : Searched api busy c r) (h' : Searched api busy c r') : r = r' := by
  induction h generalizing r' with
  | declared hd =>
    cases h' with
    | declared hd' => rw [hd] at hd'; cases hd'; rfl
    | inProgress hd' => rw [hd] at hd'; cases hd'
    | search hd' => rw [hd] at hd'; cases hd'
  | inProgress hd hb =>
    cases h' with
    | declared hd' => rw [hd] at hd'; cases hd'
    | inProgress => rfl
    | search _ hb' => exact absurd hb hb'
  | search hd hb found _ ih =>
    cases h' with
    | declared hd' => rw [hd] at hd'; cases hd'
    | inProgress _ hb' => exact absurd hb' hb
    | search _ _ found' hf' =>
      rw [sampleTypeWith_congr fun d hm => ih d hm (hf' d hm)]

def unvisited (api : Api) (busy : List ClassDecl) : List ClassDecl :=
  api.classes.filter (· ∉ busy)

theorem unvisited_cons_sublist (busy : List ClassDecl) (c : ClassDecl) :
    (unvisited api (c :: busy)).Sublist (unvisited api busy) := by
  apply List.monotone_filter_right
  intro d hd
  simp only [List.mem_cons, decide_not, Bool.not_eq_eq_eq_not, Bool.not_true,
    decide_eq_false_iff_not] at hd ⊢
  exact fun hm => hd (Or.inr hm)

theorem unvisited_shrinks {busy : List ClassDecl} {c : ClassDecl} (hc : c ∈ api.classes)
    (hb : c ∉ busy) : (unvisited api (c :: busy)).length < (unvisited api busy).length := by
  have hs : (unvisited api (c :: busy)).Sublist (unvisited api busy) :=
    unvisited_cons_sublist busy c
  refine Nat.lt_of_le_of_ne hs.length_le fun he => ?_
  have hm : c ∈ unvisited api busy := by simp [unvisited, hc, hb]
  rw [← hs.eq_of_length he] at hm
  simp [unvisited] at hm

theorem searched_step {busy : List ClassDecl} {c : ClassDecl} {depth : Nat}
    (h : c ∉ busy → ∀ d ∈ api.classes,
      Searched api (c :: busy) d (api.sampleClassAt depth (c :: busy) d)) :
    Searched api busy c (api.sampleClassAt (depth + 1) busy c) := by
  rw [Api.sampleClassAt]
  cases hd : c.entry.declaredSample? with
  | some text => exact .declared hd
  | none =>
    by_cases hb : c ∈ busy
    · simpa [hb] using Searched.inProgress hd hb
    · simpa [hb] using Searched.search hd hb _ (h hb)

/-- Each class that is put in progress leaves fewer to come, so the depth does not run out. -/
theorem searched_of_depth {depth : Nat} : ∀ {busy : List ClassDecl} {c : ClassDecl},
    c ∈ api.classes → (unvisited api busy).length < depth →
    Searched api busy c (api.sampleClassAt depth busy c) := by
  induction depth with
  | zero => intro _ _ _ h; omega
  | succ depth ih =>
    intro busy c hc h
    apply searched_step
    intro hb d hd
    have := unvisited_shrinks hc hb
    exact ih hd (by omega)

theorem searched_sampleClass (c : ClassDecl) : Searched api [] c (api.sampleClass c) := by
  apply searched_step
  intro _ d hd
  apply searched_of_depth hd
  exact Nat.lt_succ_of_le (List.length_filter_le _ _)

theorem searched_iff {c : ClassDecl} {r : Traced (Option Sample)} :
    Searched api [] c r ↔ r = api.sampleClass c := by
  constructor
  · exact fun h => searched_unique h (searched_sampleClass c)
  · rintro rfl
    exact searched_sampleClass c

/-- What a type use needs when the classes of `P` have samples. -/
def TypeUse.BuildableFrom (api : Api) (P : ClassDecl → Prop) (t : TypeUse) : Prop :=
  t.Bindable ∧ (t.isContainer = true ∨ t.isPointer = true ∨ Buildable api (.entry t.entry) ∨
    (t.entry.isComplex = true ∧ (t.entry.hasDefaultConstructor = true ∨
      ∃ c, api.findClass t.entry = some c ∧ P c)))

def Callable.CallableFrom (api : Api) (P : ClassDecl → Prop) (c : ClassDecl) (f : Callable) :
    Prop :=
  ∀ a ∈ f.arguments, (a.type.isKnown = true ∧ a.type.entry ≠ c.entry) ∧
    a.type.BuildableFrom api P

def ClassDecl.BuildableFrom (api : Api) (P : ClassDecl → Prop) (c : ClassDecl) : Prop :=
  c.entry.hasDefaultConstructor = true ∨ ∃ f ∈ c.candidates, f.arguments = [] ∨
    (∃ s rest, api.directSamples c f.arguments = some (s :: rest)) ∨ f.CallableFrom api P c

theorem buildable_entry_iff {e : Entry} :
    Buildable api (.entry e) ↔ e.isPrimitive = true ∨ e.isEnum = true ∨ e.isFlags = true := by
  constructor
  · intro h
    cases h with
    | primitive h => exact Or.inl h
    | enum h => exact Or.inr (Or.inl h)
    | flags h => exact Or.inr (Or.inr h)
  · rintro (h | h | h)
    · exact .primitive h
    · exact .enum h
    · exact .flags h

theorem buildable_type_iff {t : TypeUse} :
    Buildable api (.type t) ↔ t.BuildableFrom api fun c => Buildable api (.cls c) := by
  constructor
  · intro h
    cases h with
    | container hb h => exact ⟨hb, Or.inl h⟩
    | pointer hb h => exact ⟨hb, Or.inr (Or.inl h)⟩
    | plain hb h => exact ⟨hb, Or.inr (Or.inr (Or.inl h))⟩
    | declaredType hb hc h => exact ⟨hb, Or.inr (Or.inr (Or.inr ⟨hc, Or.inl h⟩))⟩
    | classType hb hc hf h => exact ⟨hb, Or.inr (Or.inr (Or.inr ⟨hc, Or.inr ⟨_, hf, h⟩⟩))⟩
  · rintro ⟨hb, h | h | h | ⟨hc, h | ⟨c, hf, h⟩⟩⟩
    · exact .container hb h
    · exact .pointer hb h
    · exact .plain hb h
    · exact .declaredType hb hc h
    · exact .classType hb hc hf h

theorem buildable_class_iff {c : ClassDecl} :
    Buildable api (.cls c) ↔ c.BuildableFrom api fun d => Buildable api (.cls d) := by
  constructor
  · intro h
    cases h with
    | declaredClass h => exact Or.inl h
    | noArguments hf h => exact Or.inr ⟨_, hf, Or.inl h⟩
    | firstPass hf h => exact Or.inr ⟨_, hf, Or.inr (Or.inl ⟨_, _, h⟩)⟩
    | allArguments hf hk h =>
      exact Or.inr ⟨_, hf, Or.inr (Or.inr fun a ha => ⟨hk a ha, buildable_type_iff.1 (h a ha)⟩)⟩
  · rintro (h | ⟨f, hf, h | ⟨s, rest, h⟩ | h⟩)
    · exact .declaredClass h
    · exact .noArguments hf h
    · exact .firstPass hf h
    · exact .allArguments hf (fun a ha => (h a ha).1) fun a ha => buildable_type_iff.2 (h a ha).2

theorem TypeUse.BuildableFrom.mono {P Q : ClassDecl → Prop} (hpq : ∀ d ∈ api.classes, P d → Q d)
    {t : TypeUse} (h : t.BuildableFrom api P) : t.BuildableFrom api Q := by
  obtain ⟨hb, h | h | h | ⟨hc, h | ⟨c, hf, h⟩⟩⟩ := h
  · exact ⟨hb, Or.inl h⟩
  · exact ⟨hb, Or.inr (Or.inl h)⟩
  · exact ⟨hb, Or.inr (Or.inr (Or.inl h))⟩
  · exact ⟨hb, Or.inr (Or.inr (Or.inr ⟨hc, Or.inl h⟩))⟩
  · have hm := (Api.mem_classes_of_findClass hf).1
    exact ⟨hb, Or.inr (Or.inr (Or.inr ⟨hc, Or.inr ⟨c, hf, hpq c hm h⟩⟩))⟩

theorem Callable.CallableFrom.mono {P Q : ClassDecl → Prop}
    (hpq : ∀ d ∈ api.classes, P d → Q d) {c : ClassDecl} {f : Callable}
    (h : f.CallableFrom api P c) : f.CallableFrom api Q c :=
  fun a ha => ⟨(h a ha).1, (h a ha).2.mono hpq⟩

theorem ClassDecl.BuildableFrom.mono {P Q : ClassDecl → Prop}
    (hpq : ∀ d ∈ api.classes, P d → Q d) {c : ClassDecl} (h : c.BuildableFrom api P) :
    c.BuildableFrom api Q := by
  obtain h | ⟨f, hf, h | h | h⟩ := h
  · exact Or.inl h
  · exact Or.inr ⟨f, hf, Or.inl h⟩
  · exact Or.inr ⟨f, hf, Or.inr (Or.inl h)⟩
  · exact Or.inr ⟨f, hf, Or.inr (Or.inr (h.mono hpq))⟩

theorem Entry.sample?_isSome {e : Entry} :
    e.sample?.isSome = true ↔ e.isPrimitive = true ∨ e.isEnum = true ∨ e.isFlags = true := by
  unfold Entry.sample?
  cases hk : e.kind <;>
    simp [Entry.isBuiltin, Entry.isEnum, Entry.isFlags, Entry.isPrimitive, hk]
  cases e.declaredSample? <;> rfl

theorem Entry.not_plain_of_isComplex {e : Entry} (h : e.isComplex = true) :
    ¬ (e.isPrimitive = true ∨ e.isEnum = true ∨ e.isFlags = true) := by
  cases hk : e.kind <;>
    simp_all [Entry.isComplex, Entry.isPrimitive, Entry.isEnum, Entry.isFlags]

theorem sampleTypeWith_isSome {g : ClassDecl → Traced (Option Sample)} {t : TypeUse} :
    (api.sampleTypeWith g t).value.isSome = true ↔
      t.BuildableFrom api fun c => (g c).value.isSome = true := by
  unfold Api.sampleTypeWith TypeUse.BuildableFrom TypeUse.Bindable
  rw [buildable_entry_iff]
  split_ifs with hr hc hn hp hx
  · simp only [Bool.and_eq_true] at hr
    simp [hr]
  · simp_all
  · simp_all [TypeUse.isPointer]
  · simp_all
  · have hplain := Entry.not_plain_of_isComplex hx
    simp only [Bool.and_eq_true] at hr
    simp only [hr, hc, hp, hx, hplain, Entry.hasDefaultConstructor]
    cases t.entry.declaredSample? with
    | some text => simp
    | none => cases api.findClass t.entry <;> simp
  · simp only [Bool.and_eq_true] at hr
    simp [hr, hc, hp, hx, Entry.sample?_isSome]

theorem samplesOfAll_isSome {g : ClassDecl → Traced (Option Sample)} {self : Entry}
    {arguments : List Argument} :
    (samplesOfAll self (api.sampleTypeWith g) arguments).value.isSome = true ↔
      ∀ a ∈ arguments, (a.type.isKnown = true ∧ a.type.entry ≠ self) ∧
        a.type.BuildableFrom api fun c => (g c).value.isSome = true := by
  induction arguments with
  | nil => simp [samplesOfAll]
  | cons a rest ih =>
    rw [samplesOfAll]
    split_ifs with hk he
    · simp_all [Traced.stop]
    · simp [he]
    · rw [List.forall_mem_cons, ← sampleTypeWith_isSome, ← ih, Traced.value_bind]
      cases (api.sampleTypeWith g a.type).value <;> simp_all

theorem sampleTypeWith_of_direct (g g' : ClassDecl → Traced (Option Sample)) {t : TypeUse}
    (h : (t.entry.isBuiltin || t.entry.isEnum || t.isPointer) = true) :
    api.sampleTypeWith g t = api.sampleTypeWith g' t := by
  unfold Api.sampleTypeWith
  split_ifs with hr hc hn hp hx <;> try rfl
  cases hk : t.entry.kind <;>
    simp_all [Entry.isComplex, Entry.isBuiltin, Entry.isEnum]

theorem simpleSamples_eq (g g' : ClassDecl → Traced (Option Sample)) (self : Entry)
    (arguments : List Argument) :
    simpleSamples self (api.sampleTypeWith g) arguments =
      simpleSamples self (api.sampleTypeWith g') arguments := by
  induction arguments with
  | nil => rfl
  | cons a rest ih =>
    rw [simpleSamples, simpleSamples]
    split_ifs with hk he hd h <;> try rfl
    rw [sampleTypeWith_of_direct g g' h, ih]

theorem call?_isSome {c : ClassDecl} {values : Option (List Sample)} :
    (c.call? values).isSome = true ↔ ∃ s rest, values = some (s :: rest) := by
  match values with
  | none => simp [ClassDecl.call?]
  | some [] => simp [ClassDecl.call?]
  | some (s :: rest) => simp [ClassDecl.call?]

theorem foldl_max_le_iff {fs : List Callable} {n bound : Nat} :
    fs.foldl (fun n f => max n f.arguments.length) n ≤ bound ↔
      n ≤ bound ∧ ∀ f ∈ fs, f.arguments.length ≤ bound := by
  induction fs generalizing n with
  | nil => simp
  | cons g fs ih => rw [List.foldl_cons, ih, Nat.max_le, List.forall_mem_cons, and_assoc]

theorem mem_byArity {f : Callable} {fs : List Callable} : f ∈ byArity fs ↔ f ∈ fs := by
  simp only [byArity, List.mem_flatMap, List.mem_range, List.mem_filter, decide_eq_true_eq]
  constructor
  · rintro ⟨n, _, hf, _⟩
    exact hf
  · intro hf
    exact ⟨_, Nat.lt_succ_of_le ((foldl_max_le_iff.1 (Nat.le_refl _)).2 f hf), hf, rfl⟩

theorem Traced.firstSome_isSome {α β : Type} {f : α → Traced (Option β)} {l : List α} :
    (Traced.firstSome f l).value.isSome = true ↔ ∃ a ∈ l, (f a).value.isSome = true := by
  rw [Traced.value_firstSome, List.findSome?_isSome_iff]

theorem samplesOfAll_eq_nil {self : Entry} {ofType : TypeUse → Traced (Option Sample)}
    {arguments : List Argument}
    (h : (samplesOfAll self ofType arguments).value = some []) : arguments = [] := by
  cases arguments with
  | nil => rfl
  | cons a rest =>
    rw [samplesOfAll] at h
    split_ifs at h
    · simp [Traced.stop] at h
    · rw [Traced.value_bind] at h
      cases hs : (ofType a.type).value with
      | none => simp [hs] at h
      | some s => simp [hs] at h

theorem callAll_isSome {g : ClassDecl → Traced (Option Sample)} {c : ClassDecl} {f : Callable}
    (hf : f.arguments ≠ []) :
    (c.call? <$> samplesOfAll c.entry (api.sampleTypeWith g) f.arguments).value.isSome = true ↔
      f.CallableFrom api (fun d => (g d).value.isSome = true) c := by
  change (c.call? (samplesOfAll c.entry (api.sampleTypeWith g) f.arguments).value).isSome = true ↔ _
  rw [call?_isSome, Callable.CallableFrom, ← samplesOfAll_isSome]
  cases h : (samplesOfAll c.entry (api.sampleTypeWith g) f.arguments).value with
  | none => simp
  | some values =>
    cases values with
    | nil => exact absurd (samplesOfAll_eq_nil h) hf
    | cons s rest => simp

theorem callSimple_isSome {g : ClassDecl → Traced (Option Sample)} {c : ClassDecl}
    {f : Callable} :
    (c.call? <$> simpleSamples c.entry (api.sampleTypeWith g) f.arguments).value.isSome = true ↔
      ∃ s rest, api.directSamples c f.arguments = some (s :: rest) := by
  rw [simpleSamples_eq g fun _ => pure none]
  exact call?_isSome

theorem sampleWith_isSome {g : ClassDecl → Traced (Option Sample)} {c : ClassDecl} :
    (c.sampleWith (api.sampleTypeWith g)).value.isSome = true ↔
      ∃ f ∈ c.candidates, f.arguments = [] ∨
        (∃ s rest, api.directSamples c f.arguments = some (s :: rest)) ∨
        f.CallableFrom api (fun d => (g d).value.isSome = true) c := by
  unfold ClassDecl.sampleWith
  dsimp only
  split_ifs with he hn
  · have hc : c.candidates = [] := List.isEmpty_iff.1 he
    simp [hc]
  · obtain ⟨f, hf, hargs⟩ := List.any_eq_true.1 hn
    simp only [Traced.value_pure, Option.isSome_some, true_iff]
    exact ⟨f, hf, Or.inl (List.isEmpty_iff.1 hargs)⟩
  · have hargs : ∀ f ∈ c.candidates, f.arguments ≠ [] := by
      intro f hf h
      exact hn (List.any_eq_true.2 ⟨f, hf, List.isEmpty_iff.2 h⟩)
    let bySimple (f : Callable) :=
      c.call? <$> simpleSamples c.entry (api.sampleTypeWith g) f.arguments
    let byAll (f : Callable) := c.call? <$> samplesOfAll c.entry (api.sampleTypeWith g) f.arguments
    have hsimple : (Traced.firstSome bySimple (byArity c.candidates)).value.isSome = true ↔
        ∃ f ∈ c.candidates, ∃ s rest, api.directSamples c f.arguments = some (s :: rest) := by
      simp only [Traced.firstSome_isSome, mem_byArity, bySimple, callSimple_isSome]
    have hall : (Traced.firstSome byAll (byArity c.candidates)).value.isSome = true ↔
        ∃ f ∈ c.candidates, f.CallableFrom api (fun d => (g d).value.isSome = true) c := by
      rw [Traced.firstSome_isSome]
      refine exists_congr fun f => ?_
      rw [mem_byArity]
      exact and_congr_right fun hf => callAll_isSome (hargs f hf)
    have hright : (∃ f ∈ c.candidates, f.arguments = [] ∨
        (∃ s rest, api.directSamples c f.arguments = some (s :: rest)) ∨
        f.CallableFrom api (fun d => (g d).value.isSome = true) c) ↔
        (Traced.firstSome bySimple (byArity c.candidates)).value.isSome = true ∨
        (Traced.firstSome byAll (byArity c.candidates)).value.isSome = true := by
      rw [hsimple, hall, ← exists_or]
      refine exists_congr fun f => ?_
      rw [← and_or_left]
      exact and_congr_right fun hf => by simp [hargs f hf]
    rw [hright, Traced.value_bind]
    cases (Traced.firstSome bySimple (byArity c.candidates)).value with
    | some s => simp
    | none =>
      rw [Traced.value_bind]
      cases (Traced.firstSome byAll (byArity c.candidates)).value <;> simp

/-! ## Ranks -/

/-- The classes built after `n` rounds, starting from none. -/
def stage (api : Api) : Nat → ClassDecl → Prop
  | 0, _ => False
  | n + 1, c => c.BuildableFrom api (stage api n)

theorem stage_succ {n : Nat} {c : ClassDecl} (h : stage api n c) : stage api (n + 1) c := by
  induction n generalizing c with
  | zero => exact absurd h id
  | succ n ih => exact ClassDecl.BuildableFrom.mono (fun d _ hd => ih hd) h

theorem stage_monotone {m n : Nat} (hmn : m ≤ n) {c : ClassDecl} (h : stage api m c) :
    stage api n c := by
  induction n, hmn using Nat.le_induction with
  | base => exact h
  | succ n _ ih => exact stage_succ ih

theorem exists_common_stage {l : List Argument}
    (h : ∀ a ∈ l, ∃ n, a.type.BuildableFrom api (stage api n)) :
    ∃ n, ∀ a ∈ l, a.type.BuildableFrom api (stage api n) := by
  induction l with
  | nil => exact ⟨0, by simp⟩
  | cons a l ih =>
    rw [List.forall_mem_cons] at h
    obtain ⟨⟨m, hm⟩, hl⟩ := h
    obtain ⟨n, hn⟩ := ih hl
    refine ⟨max m n, List.forall_mem_cons.2 ⟨?_, fun b hb => ?_⟩⟩
    · exact hm.mono fun _ _ => stage_monotone (Nat.le_max_left m n)
    · exact (hn b hb).mono fun _ _ => stage_monotone (Nat.le_max_right m n)

def Target.ReachedAt (api : Api) (n : Nat) : Target → Prop
  | .type t => t.BuildableFrom api (stage api n)
  | .cls c => c.BuildableFrom api (stage api n)
  | target => Buildable api target

theorem reached_of_buildable {target : Target} (h : Buildable api target) :
    ∃ n, target.ReachedAt api n := by
  induction h with
  | container hb h => exact ⟨0, hb, Or.inl h⟩
  | pointer hb h => exact ⟨0, hb, Or.inr (Or.inl h)⟩
  | plain hb h => exact ⟨0, hb, Or.inr (Or.inr (Or.inl h))⟩
  | declaredType hb hc h => exact ⟨0, hb, Or.inr (Or.inr (Or.inr ⟨hc, Or.inl h⟩))⟩
  | classType hb hc hf _ ih =>
    obtain ⟨n, hn⟩ := ih
    exact ⟨n + 1, hb, Or.inr (Or.inr (Or.inr ⟨hc, Or.inr ⟨_, hf, hn⟩⟩))⟩
  | primitive h => exact ⟨0, .primitive h⟩
  | enum h => exact ⟨0, .enum h⟩
  | flags h => exact ⟨0, .flags h⟩
  | declaredClass h => exact ⟨0, Or.inl h⟩
  | noArguments hf h => exact ⟨0, Or.inr ⟨_, hf, Or.inl h⟩⟩
  | firstPass hf h => exact ⟨0, Or.inr ⟨_, hf, Or.inr (Or.inl ⟨_, _, h⟩)⟩⟩
  | allArguments hf hk _ ih =>
    obtain ⟨n, hn⟩ := exists_common_stage ih
    exact ⟨n, Or.inr ⟨_, hf, Or.inr (Or.inr fun a ha => ⟨hk a ha, hn a ha⟩)⟩⟩

theorem buildable_of_searched {busy : List ClassDecl} {c : ClassDecl} {r : Traced (Option Sample)}
    (h : Searched api busy c r) (hr : r.value.isSome = true) : Buildable api (.cls c) := by
  induction h with
  | declared hd => exact .declaredClass (by simp [Entry.hasDefaultConstructor, hd])
  | inProgress => simp at hr
  | search _ _ found _ ih =>
    rw [buildable_class_iff]
    exact ClassDecl.BuildableFrom.mono (fun d hd hs => ih d hd hs)
      (Or.inr (sampleWith_isSome.1 hr))

/-- No class in progress is of the rank of the class that is searched, or below. So the classes that
give the class its rank are not in progress, and stay out of progress while it is. -/
theorem searched_of_stage {n : Nat} : ∀ {busy : List ClassDecl} {c : ClassDecl}
    {r : Traced (Option Sample)}, Searched api busy c r → stage api n c →
    (∀ b ∈ busy, ¬ stage api n b) → r.value.isSome = true := by
  induction n with
  | zero => exact fun _ hc _ => absurd hc id
  | succ n ih =>
    intro busy c r hr hc hbusy
    by_cases hn : stage api n c
    · exact ih hr hn fun b hb h => hbusy b hb (stage_succ h)
    cases hr with
    | declared => rfl
    | inProgress _ hb => exact absurd hc (hbusy c hb)
    | search hd _ found hf =>
      have hfree : ∀ b ∈ c :: busy, ¬ stage api n b := by
        intro b hb
        rcases List.mem_cons.1 hb with rfl | hb
        · exact hn
        · exact fun h => hbusy b hb (stage_succ h)
      have hfound : c.BuildableFrom api fun d => (found d).value.isSome = true :=
        ClassDecl.BuildableFrom.mono (fun d hm hs => ih (hf d hm) hs hfree) hc
      rcases hfound with h | h
      · simp [Entry.hasDefaultConstructor, hd] at h
      · exact sampleWith_isSome.2 h

theorem sampleClass_isSome {c : ClassDecl} :
    (api.sampleClass c).value.isSome = true ↔ Buildable api (.cls c) := by
  constructor
  · exact buildable_of_searched (searched_sampleClass c)
  · intro h
    obtain ⟨n, hn⟩ := reached_of_buildable h
    exact searched_of_stage (n := n + 1) (searched_sampleClass c) hn (by simp)

theorem sampleType_isSome {t : TypeUse} :
    (api.sampleType t).value.isSome = true ↔ Buildable api (.type t) := by
  have h : (api.sampleType t).value.isSome = true ↔ _ := sampleTypeWith_isSome
  rw [h, buildable_type_iff]
  exact iff_of_eq (congrArg (t.BuildableFrom api) (funext fun _ => propext sampleClass_isSome))

theorem sample_isSome {target : Target} :
    (api.sample target).value.isSome = true ↔ Buildable api target := by
  cases target with
  | type t => exact sampleType_isSome
  | entry e => exact Entry.sample?_isSome.trans buildable_entry_iff.symm
  | cls c => exact sampleClass_isSome
  | enum e => exact ⟨fun h => by simp [Api.sample] at h, fun h => nomatch h⟩
  | nothing => exact ⟨fun h => by simp [Api.sample] at h, fun h => nomatch h⟩

def ClassDecl.IsTyped (c : ClassDecl) : Prop :=
  ∀ f ∈ c.functions, ∀ a ∈ f.arguments, a.type.isSpellable = true

/-- No type is unknown, in any argument of the interface and its template arguments. -/
def Api.IsTyped (api : Api) : Prop := ∀ c ∈ api.classes, c.IsTyped

def Target.IsTyped : Target → Prop
  | .type t => t.isSpellable = true
  | .cls c => c.IsTyped
  | _ => True

theorem TypeUse.isKnown_of_isSpellable {t : TypeUse} (h : t.isSpellable = true) :
    t.isKnown = true := by
  cases t
  simp only [isSpellable, Bool.and_eq_true] at h
  exact h.1

theorem Traced.firstSome_stopped {α β : Type} {f : α → Traced (Option β)} {l : List α}
    (h : ∀ a ∈ l, (f a).stopped = false) : (Traced.firstSome f l).stopped = false := by
  induction l with
  | nil => rfl
  | cons a l ih =>
    rw [List.forall_mem_cons] at h
    rw [Traced.firstSome, Traced.stopped_bind, h.1, Bool.false_or]
    cases (f a).value with
    | some b => rfl
    | none => exact ih h.2

section Unstopped

variable {g : ClassDecl → Traced (Option Sample)} (hg : ∀ d ∈ api.classes, (g d).stopped = false)

include hg

theorem sampleTypeWith_stopped {t : TypeUse} (ht : t.isSpellable = true) :
    (api.sampleTypeWith g t).stopped = false := by
  unfold Api.sampleTypeWith
  split_ifs
  all_goals try rfl
  · simp [ht]
  · cases t.entry.declaredSample? with
    | some text => rfl
    | none =>
      cases hc : api.findClass t.entry with
      | none => rfl
      | some c => exact hg c (Api.mem_classes_of_findClass hc).1

theorem samplesOfAll_stopped {self : Entry} {arguments : List Argument}
    (h : ∀ a ∈ arguments, a.type.isSpellable = true) :
    (samplesOfAll self (api.sampleTypeWith g) arguments).stopped = false := by
  induction arguments with
  | nil => rfl
  | cons a rest ih =>
    rw [List.forall_mem_cons] at h
    have hk := TypeUse.isKnown_of_isSpellable h.1
    rw [samplesOfAll]
    split_ifs with hu he
    · simp [hk] at hu
    · rfl
    · rw [Traced.stopped_bind, sampleTypeWith_stopped hg h.1, Bool.false_or]
      cases (api.sampleTypeWith g a.type).value with
      | none => rfl
      | some s => simp [ih h.2]

theorem simpleSamples_stopped {self : Entry} {arguments : List Argument}
    (h : ∀ a ∈ arguments, a.type.isSpellable = true) :
    (simpleSamples self (api.sampleTypeWith g) arguments).stopped = false := by
  induction arguments with
  | nil => rfl
  | cons a rest ih =>
    rw [List.forall_mem_cons] at h
    have hk := TypeUse.isKnown_of_isSpellable h.1
    rw [simpleSamples]
    split_ifs with hu he hd hb
    · simp [hk] at hu
    · rfl
    · rfl
    · rw [Traced.stopped_bind, sampleTypeWith_stopped hg h.1, Bool.false_or]
      cases (api.sampleTypeWith g a.type).value with
      | none => rfl
      | some s => simp [ih h.2]
    · rfl

theorem sampleWith_stopped {c : ClassDecl} (hc : c.IsTyped) :
    (c.sampleWith (api.sampleTypeWith g)).stopped = false := by
  have harguments : ∀ f ∈ byArity c.candidates, ∀ a ∈ f.arguments, a.type.isSpellable = true := by
    intro f hf
    have hm := List.mem_filter.1 (List.mem_filter.1 (mem_byArity.1 hf)).1
    exact hc f hm.1
  let bySimple (f : Callable) :=
    c.call? <$> simpleSamples c.entry (api.sampleTypeWith g) f.arguments
  let byAll (f : Callable) := c.call? <$> samplesOfAll c.entry (api.sampleTypeWith g) f.arguments
  have hsimple : (Traced.firstSome bySimple (byArity c.candidates)).stopped = false := by
    apply Traced.firstSome_stopped
    intro f hf
    change (_ || false) = false
    rw [Bool.or_false]
    exact simpleSamples_stopped hg (harguments f hf)
  have hall : (Traced.firstSome byAll (byArity c.candidates)).stopped = false := by
    apply Traced.firstSome_stopped
    intro f hf
    change (_ || false) = false
    rw [Bool.or_false]
    exact samplesOfAll_stopped hg (harguments f hf)
  unfold ClassDecl.sampleWith
  dsimp only
  split_ifs
  · rfl
  · rfl
  · rw [Traced.stopped_bind, hsimple, Bool.false_or]
    cases (Traced.firstSome bySimple (byArity c.candidates)).value with
    | some s => rfl
    | none =>
      rw [Traced.stopped_bind, hall, Bool.false_or]
      cases (Traced.firstSome byAll (byArity c.candidates)).value <;> rfl

end Unstopped

theorem searched_unstopped (hapi : api.IsTyped) {busy : List ClassDecl} {c : ClassDecl}
    {r : Traced (Option Sample)} (h : Searched api busy c r) (hc : c.IsTyped) :
    r.stopped = false := by
  induction h with
  | declared => rfl
  | inProgress => rfl
  | search _ _ found _ ih => exact sampleWith_stopped (fun d hd => ih d hd (hapi d hd)) hc

theorem sample_unstopped (hapi : api.IsTyped) {target : Target} (ht : target.IsTyped) :
    (api.sample target).stopped = false := by
  have hclass : ∀ c : ClassDecl, c.IsTyped → (api.sampleClass c).stopped = false :=
    fun c => searched_unstopped hapi (searched_sampleClass c)
  cases target with
  | type t => exact sampleTypeWith_stopped (fun d hd => hclass d (hapi d hd)) ht
  | entry e => rfl
  | cls c => exact hclass c ht
  | enum e => rfl
  | nothing => rfl

/-- The search ends without a bound on its depth, stops at nothing when all types are known, and
finds a sample exactly when one can be built. -/
theorem search_finds_exactly_the_buildable (api : Api) (target : Target) :
    (∀ c r, Searched api [] c r ↔ r = api.sampleClass c) ∧
    (api.IsTyped → target.IsTyped → (api.sample target).stopped = false) ∧
    ((api.sample target).value.isSome = true ↔ Buildable api target) :=
  ⟨fun _ _ => searched_iff, fun hapi ht => sample_unstopped hapi ht, sample_isSome⟩

def constructorFrom (entry : Entry) : Callable :=
  { handle := 0, name := "", isConstructor := true
    arguments := [⟨"a", { entry }, 0, "", "", false⟩] }

def keyEntry : Entry := { handle := 1, kind := .value, name := "Key" }

def lockEntry : Entry := { handle := 2, kind := .value, name := "Lock" }

def labelEntry : Entry := { handle := 3, kind := .primitive, name := "Label" }

def keyClass : ClassDecl :=
  { handle := 1, name := "Key", entry := keyEntry, functions := [constructorFrom lockEntry] }

def lockClass : ClassDecl :=
  { handle := 2, name := "Lock", entry := lockEntry,
    functions := [constructorFrom keyEntry, constructorFrom labelEntry] }

def keysAndLocks : Api := { classes := [keyClass, lockClass] }

theorem key_found_through_lock :
    keysAndLocks.IsTyped ∧ (Target.cls keyClass).IsTyped ∧
    (keysAndLocks.sample (.cls keyClass)).stopped = false ∧
    Buildable keysAndLocks (.cls keyClass) := by
  have hapi : keysAndLocks.IsTyped := by
    simp [Api.IsTyped, ClassDecl.IsTyped, keysAndLocks, keyClass, lockClass, constructorFrom,
      TypeUse.isSpellable, TypeUse.isSpellableAll, keyEntry, lockEntry, labelEntry, Entry.isKnown]
  have hkey : (Target.cls keyClass).IsTyped := hapi keyClass (by simp [keysAndLocks])
  have h := search_finds_exactly_the_buildable keysAndLocks (.cls keyClass)
  exact ⟨hapi, hkey, h.2.1 hapi hkey, h.2.2.1 (by decide)⟩

example : (keysAndLocks.sample (.cls keyClass)).value.map Sample.text =
    some "::Key(::Lock(::Label()))" := by decide +kernel

end GlueCode
