import GlueCode.Proofs.ConstructorChoice
import GlueCode.Proofs.GlobalScope
/-! # Built-in names in samples

The rule for the text of a type is that no scope holds void and the built-in types. A sample keeps
to it where it casts zero to a built-in type or to a native pointer. Any other null pointer is cast
to a name behind the global scope, whatever the type is, so the casts in a sample break the rule just
where it holds the null of a pointer to void or to a built-in type that is not a native one. What a
sample is composed of is said by a grammar, in which every sample that a search finds is. -/
namespace GlueCode

inductive Sample.Holds : Sample → Sample → Prop where
  | self (s : Sample) : Holds s s
  | value {name : String} {values : List Sample} {v part : Sample} (hv : v ∈ values)
      (h : Holds v part) : Holds (.build name values) part

/-- A type that the search can ask a sample for: the target, or an argument of the target or of a
class that is looked up for such a type. -/
inductive Target.Uses (api : Api) (target : Target) : TypeUse → Prop where
  | target {t : TypeUse} (h : target = .type t) : Uses api target t
  | argument {c : ClassDecl} {f : Callable} {a : Argument} (h : target = .cls c)
      (hf : f ∈ c.candidates) (ha : a ∈ f.arguments) : Uses api target a.type
  | lookup {t : TypeUse} {c : ClassDecl} {f : Callable} {a : Argument} (ht : Uses api target t)
      (hcomplex : t.entry.isComplex = true) (hfound : api.findClass t.entry = some c)
      (hf : f ∈ c.candidates) (ha : a ∈ f.arguments) : Uses api target a.type

def Target.Reaches (api : Api) (target : Target) (c : ClassDecl) : Prop :=
  target = .cls c ∨
    ∃ t, target.Uses api t ∧ t.entry.isComplex = true ∧ api.findClass t.entry = some c

def Target.UsesEntry (api : Api) (target : Target) (e : Entry) : Prop :=
  target = .entry e ∨ ∃ t, target.Uses api t ∧ t.entry = e

inductive Sample.Composed (api : Api) (target : Target) : Sample → Prop where
  | declared (text : String) : Composed api target (.declared text)
  | null : Composed api target .null
  | zero {e : Entry} (he : target.UsesEntry api e) (h : e.isBuiltin = true) :
      Composed api target (.cast e false false)
  | constant {e : Entry} (he : target.UsesEntry api e) (h : e.isEnum = true ∨ e.isFlags = true) :
      Composed api target (.cast e true false)
  | pointer {t : TypeUse} (ht : target.Uses api t) (h : t.isPointer = true) :
      Composed api target (.cast t.entry (!t.nativePointer) true)
  | container {t : TypeUse} (ht : target.Uses api t) (h : t.isContainer = true) :
      Composed api target (.build (String.ofList t.containerName) [])
  | primitive {e : Entry} (he : target.UsesEntry api e) (h : e.kind = .primitive) :
      Composed api target (.build e.qualifiedName [])
  | call {c : ClassDecl} {values : List Sample} (hc : target.Reaches api c)
      (h : ∀ v ∈ values, Composed api target v) :
      Composed api target (.build c.qualifiedName values)

variable {api : Api} {target : Target} {c : ClassDecl} {s : Sample} {t : TypeUse}

theorem Target.Reaches.uses {f : Callable} {a : Argument} (hc : target.Reaches api c)
    (hf : f ∈ c.candidates) (ha : a ∈ f.arguments) : target.Uses api a.type := by
  rcases hc with htarget | ⟨t, ht, hcomplex, hfound⟩
  · exact .argument htarget hf ha
  · exact .lookup ht hcomplex hfound hf ha

theorem Sample.Composed.of_holds {part : Sample} (h : s.Composed api target) (hp : s.Holds part) :
    part.Composed api target := by
  induction hp with
  | self => exact h
  | value hv _ ih =>
    cases h with
    | container | primitive => cases hv
    | call _ h => exact ih (h _ hv)

section Values

variable {own : Entry} {ofType : TypeUse → Traced (Option Sample)} {arguments : List Argument}
  {values : List Sample} {v : Sample}

theorem mem_simpleSamples (h : (simpleSamples own ofType arguments).value = some values)
    (hv : v ∈ values) :
    (∃ text, v = .declared text) ∨ ∃ a ∈ arguments, (ofType a.type).value = some v := by
  induction arguments generalizing values with
  | nil =>
    obtain rfl : [] = values := Option.some.inj h
    cases hv
  | cons a later ih =>
    rw [simpleSamples] at h
    split_ifs at h
    · cases h
    · obtain rfl := Option.some.inj h
      unfold Argument.overridden? at hv
      split at hv
      · exact .inl ⟨_, List.mem_singleton.1 hv⟩
      · cases hv
    · rw [Traced.value_bind] at h
      cases hs : (ofType a.type).value with
      | none => simp [hs] at h
      | some s =>
        simp only [hs, Traced.value_bind, Traced.value_pure, Option.map_eq_some_iff] at h
        obtain ⟨rest, hrest, rfl⟩ := h
        rcases List.mem_cons.1 hv with rfl | hv
        · exact .inr ⟨a, List.mem_cons_self, hs⟩
        · refine (ih hrest hv).imp_right ?_
          rintro ⟨b, hb, hvalue⟩
          exact ⟨b, List.mem_cons_of_mem _ hb, hvalue⟩

theorem mem_samplesOfAll (h : (samplesOfAll own ofType arguments).value = some values)
    (hv : v ∈ values) : ∃ a ∈ arguments, (ofType a.type).value = some v := by
  rw [samplesOfAll_eq_some_iff] at h
  induction h with
  | nil => cases hv
  | cons ha _ ih =>
    rcases List.mem_cons.1 hv with rfl | hv
    · exact ⟨_, List.mem_cons_self, ha.2⟩
    · obtain ⟨b, hb, hvalue⟩ := ih hv
      exact ⟨b, List.mem_cons_of_mem _ hb, hvalue⟩

end Values

theorem Entry.sample?_composed {e : Entry} (he : target.UsesEntry api e) (h : e.sample? = some s) :
    s.Composed api target := by
  unfold Entry.sample? at h
  split_ifs at h with hbuiltin hconstant hprimitive
  · obtain rfl := Option.some.inj h
    exact .zero he hbuiltin
  · obtain rfl := Option.some.inj h
    exact .constant he (by simpa using hconstant)
  · have hkind : e.kind = .primitive := by
      simpa [Entry.isPrimitive, show e.kind ≠ .builtin by simpa [Entry.isBuiltin] using hbuiltin]
        using hprimitive
    split at h
    · obtain rfl := Option.some.inj h
      exact .declared _
    · obtain rfl := Option.some.inj h
      exact .primitive he hkind

theorem sampleTypeWith_composed {found : ClassDecl → Traced (Option Sample)}
    (hfound : ∀ d ∈ api.classes, target.Reaches api d → ∀ s, (found d).value = some s →
      s.Composed api target)
    (ht : target.Uses api t) (h : (api.sampleTypeWith found t).value = some s) :
    s.Composed api target := by
  unfold Api.sampleTypeWith at h
  split_ifs at h with hbind hcontainer hnative hpointer hcomplex
  · obtain rfl := Option.some.inj h
    unfold TypeUse.containerSample
    dsimp only
    split
    · exact .null
    · exact .container ht hcontainer
  · obtain rfl := Option.some.inj h
    have hcast := Sample.Composed.pointer ht (by simp [TypeUse.isPointer, hnative])
    rwa [hnative] at hcast
  · obtain rfl := Option.some.inj h
    have hcast := Sample.Composed.pointer ht hpointer
    rwa [Bool.eq_false_iff.2 hnative] at hcast
  · split at h
    · obtain rfl := Option.some.inj h
      exact .declared _
    · split at h
      · next d hd =>
        exact hfound d (Api.mem_classes_of_findClass hd).1 (.inr ⟨t, ht, hcomplex, hd⟩) s h
      · cases h
  · exact Entry.sample?_composed (.inr ⟨t, ht, rfl⟩) h

theorem sampleWith_composed {ofType : TypeUse → Traced (Option Sample)} (hc : target.Reaches api c)
    (hofType : ∀ t s, target.Uses api t → (ofType t).value = some s → s.Composed api target)
    (h : (c.sampleWith ofType).value = some s) : s.Composed api target := by
  by_cases hno : ∃ f ∈ c.candidates, f.arguments = []
  · obtain ⟨f, hf, hargs⟩ := hno
    rw [sampleWith_noArguments hf hargs] at h
    obtain rfl := Option.some.inj h
    exact .call hc (by simp)
  · rw [sampleWith_passes fun g hg hargs => hno ⟨g, hg, hargs⟩, Option.or_eq_some_iff,
      pass_eq_some_iff fun _ _ => Iff.rfl, pass_eq_some_iff fun _ _ => Iff.rfl] at h
    rcases h with ⟨f, hfirst, values, -, hvalues, rfl⟩ | ⟨-, f, hfirst, values, -, hvalues, rfl⟩
    · refine .call hc fun v hv => ?_
      rcases mem_simpleSamples hvalues hv with ⟨text, rfl⟩ | ⟨a, ha, hvalue⟩
      · exact .declared text
      · exact hofType _ _ (hc.uses hfirst.mem ha) hvalue
    · refine .call hc fun v hv => ?_
      obtain ⟨a, ha, hvalue⟩ := mem_samplesOfAll hvalues hv
      exact hofType _ _ (hc.uses hfirst.mem ha) hvalue

theorem searched_composed {busy : List ClassDecl} {r : Traced (Option Sample)}
    (h : Searched api busy c r) (hc : target.Reaches api c) (hs : r.value = some s) :
    s.Composed api target := by
  induction h generalizing s with
  | declared =>
    obtain rfl := Option.some.inj hs
    exact .declared _
  | inProgress => cases hs
  | search _ _ found _ ih =>
    refine sampleWith_composed hc (fun t s ht hvalue => ?_) hs
    exact sampleTypeWith_composed (fun d hd hreached s hs => ih d hd hreached hs) ht hvalue

theorem sample_composed (h : (api.sample target).value = some s) : s.Composed api target := by
  have hclass : ∀ c, target.Reaches api c → ∀ s, (api.sampleClass c).value = some s →
      s.Composed api target := fun c hc s hs => searched_composed (searched_sampleClass c) hc hs
  cases target with
  | type t => exact sampleTypeWith_composed (fun d _ => hclass d) (.target rfl) h
  | entry e => exact Entry.sample?_composed (.inl rfl) h
  | cls c => exact hclass c (.inl rfl) s h
  | enum | nothing => cases h

/-- A pointer in any shape but that of a native one. -/
def TypeUse.IsScopedPointer (t : TypeUse) : Prop := t.isPointer = true ∧ t.nativePointer = false

/-- What a call can name: the target if it is a class, a type in the global scope that a sample is
asked for, or a container as it is spelled. -/
inductive Target.Calls (api : Api) (target : Target) : String → Prop where
  | target {c : ClassDecl} (h : target = .cls c) : Calls api target c.qualifiedName
  | scoped {e : Entry} (he : target.UsesEntry api e) (h : ¬e.IsUnscoped) :
      Calls api target e.qualifiedName
  | container {t : TypeUse} (ht : target.Uses api t) (h : t.isContainer = true) :
      Calls api target (String.ofList t.containerName)

theorem sampleTypeWith_unscoped (found : ClassDecl → Traced (Option Sample))
    (hpointer : t.IsScopedPointer) (hentry : t.entry.IsUnscoped) :
    (api.sampleTypeWith found t).value = some (.cast t.entry true true) := by
  obtain ⟨hshape, hnative⟩ := hpointer
  have hkind : t.isObject = false ∧ t.isContainer = false := by
    unfold TypeUse.isObject Entry.isObject TypeUse.isContainer Entry.isContainer
    rcases Entry.isUnscoped_iff.1 hentry with h | h <;> simp [h]
  simp [Api.sampleTypeWith, hkind, hnative, hshape]

theorem Sample.Composed.scoped_cast {e : Entry} {isPointer : Bool}
    (h : (Sample.cast e true isPointer).Composed api target) (he : e.IsUnscoped) :
    isPointer = true ∧ ∃ t, target.Uses api t ∧ t.IsScopedPointer ∧ t.entry = e := by
  generalize hcast : Sample.cast e true isPointer = s at h
  cases h with
  | zero => cases hcast
  | constant _ hconstant =>
    cases hcast
    rcases Entry.isUnscoped_iff.1 he with h | h <;>
      simp [Entry.isEnum, Entry.isFlags, h] at hconstant
  | @pointer t ht hpointer =>
    obtain ⟨rfl, hnative, rfl⟩ := Sample.cast.inj hcast
    exact ⟨rfl, t, ht, ⟨hpointer, by simpa using hnative⟩, rfl⟩
  | declared | null | container | primitive | call => cases hcast

/-- Only the target itself can be a class on a built-in entry; any other is looked up by an entry
that is declared as a class. -/
theorem Target.Reaches.calls (hc : target.Reaches api c) : target.Calls api c.qualifiedName := by
  rcases hc with htarget | ⟨t, ht, hcomplex, hfound⟩
  · exact .target htarget
  · have hentry : t.entry = c.entry := (Api.mem_classes_of_findClass hfound).2.symm
    have hscoped : ¬c.entry.IsUnscoped := by
      rw [← hentry, Entry.isUnscoped_iff]
      rintro (h | h) <;> simp [Entry.isComplex, h] at hcomplex
    exact .scoped (.inr ⟨t, ht, hentry⟩) hscoped

/-- A sample casts to void or a built-in type behind the global scope just where it holds the null
of a pointer to it, other than a native one; and every such pointer is given this null. A call names
a built-in type only when the target is a class declared on one. -/
theorem builtin_behind_scope_iff (h : (api.sample target).value = some s) :
    ((∃ e isPointer, e.IsUnscoped ∧ s.Holds (.cast e true isPointer)) ↔
        ∃ t, target.Uses api t ∧ t.IsScopedPointer ∧ t.entry.IsUnscoped ∧
          s.Holds (.cast t.entry true true)) ∧
      (∀ t found, TypeUse.IsScopedPointer t → t.entry.IsUnscoped →
        (api.sampleTypeWith found t).value = some (.cast t.entry true true)) ∧
      ∀ name values, s.Holds (.build name values) → target.Calls api name := by
  have hcomposed : s.Composed api target := sample_composed h
  refine ⟨⟨?_, ?_⟩, fun t found => sampleTypeWith_unscoped found, fun name values hcall => ?_⟩
  · rintro ⟨e, isPointer, he, hcast⟩
    obtain ⟨rfl, t, ht, hpointer, rfl⟩ := (hcomposed.of_holds hcast).scoped_cast he
    exact ⟨t, ht, hpointer, he, hcast⟩
  · rintro ⟨t, -, -, he, hcast⟩
    exact ⟨t.entry, true, he, hcast⟩
  · cases hcomposed.of_holds hcall with
    | container ht hcontainer => exact .container ht hcontainer
    | primitive he hkind =>
      exact .scoped he (by simp [Entry.isUnscoped_iff, hkind])
    | call hc => exact hc.calls

def wholeEntry : Entry := { handle := 1, kind := .builtin, name := "int" }

def wholePointer : TypeUse := { entry := wholeEntry, indirections := 1 }

def readerClass : ClassDecl :=
  let text : TypeUse :=
    { entry := { handle := 2, kind := .builtin, name := "char" }, nativePointer := true }
  { handle := 3, name := "Reader", entry := { handle := 3, kind := .value, name := "Reader" }
    functions :=
      [{ handle := 4, name := "Reader", isConstructor := true
         arguments :=
          [{ name := "text", type := text }, { name := "line", type := wholePointer }] }] }

theorem reader_behind_scope : ∃ s, (Api.sampleClass {} readerClass).value = some s ∧
    s.text = "::Reader(((char*)0), ((::int*)0))" ∧
    ∃ t, (Target.cls readerClass).Uses {} t ∧ t.IsScopedPointer ∧ t.entry.IsUnscoped ∧
      s.Holds (.cast t.entry true true) := by
  have hs : (Api.sample {} (.cls readerClass)).value = some (.build "Reader"
      [.cast { handle := 2, kind := .builtin, name := "char" } false true,
        .cast wholeEntry true true]) := by rfl
  refine ⟨_, hs, by decide +kernel, (builtin_behind_scope_iff hs).1.1 ⟨wholeEntry, true, ?_, ?_⟩⟩
  · exact .inr rfl
  · exact .value (by simp) (.self _)

/-- The null of a pointer to a built-in type is cast to a name behind the global scope, while the
text of the pointer's type has no scope. -/
theorem whole_behind_scope : wholePointer.entry.IsUnscoped ∧
    (Api.sample {} (.type wholePointer)).value.map Sample.text = some "((::int*)0)" ∧
    typeText { withoutConst := true } none (some wholePointer) = "int*" :=
  ⟨.inr rfl, by decide +kernel, by decide +kernel⟩

end GlueCode
