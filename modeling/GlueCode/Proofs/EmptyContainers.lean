import GlueCode.Proofs.Spelling
import GlueCode.Sample.Search
/-! # Empty containers

The sample of a container is cut out of its spelling: a leading const goes, then a final ampersand,
and what ends with a star after that is a pointer. When the name of the container holds no blank, no
star and no ampersand, all of these are the container's own. What stands in front of the name is its
const, and behind the name and the closing bracket are its stars and its ampersand; template
arguments lie between these and stay as they are. -/
namespace GlueCode

namespace TypeUse

variable {t : TypeUse}

/-- A name without anything that is cut off a spelling. -/
structure IsSolidName (name : String) : Prop where
  nonempty : name ≠ ""
  solid : ∀ c ∈ name.toList, Text.isBlank c = false ∧ c ≠ '&' ∧ c ≠ '*'

instance (name : String) : Decidable (IsSolidName name) :=
  decidable_of_iff (name ≠ "" ∧
      name.toList.all (fun c => !Text.isBlank c && (c ≠ '&' && c ≠ '*')) = true)
    ⟨fun ⟨h, h'⟩ => ⟨h, by simpa using h'⟩, fun ⟨h, h'⟩ => ⟨h, by simpa using h'⟩⟩

def bare (t : TypeUse) : TypeUse := { t with constant := false, reference := false }

theorem spell_bare (t : TypeUse) : t.bare.spell =
    t.entry.qualifiedName.toList ++
      (bracketed (t.arguments.map spell) ++ List.replicate t.indirections '*') := by
  rw [spell_eq]
  simp [front, back, bare]

theorem spell_eq_bare (t : TypeUse) : t.spell =
    (if t.constant then constPrefix else []) ++
      (t.bare.spell ++ if t.reference then ['&'] else []) := by
  rw [spell_eq, spell_bare, front, back]
  simp

theorem IsSolidName.not_constant (h : IsSolidName t.entry.qualifiedName)
    (hconstant : t.constant = false) : ¬constPrefix <+: t.spell := by
  have hunmarked : ∀ c ∈ constPrefix, isMark c = false := by simp [constPrefix, isMark]
  have hspell : t.spell = t.entry.qualifiedName.toList ++
      (bracketed (t.arguments.map spell) ++ t.back) := by
    rw [spell_eq, front, hconstant]
    rfl
  have hblank : ¬constPrefix <+: t.entry.qualifiedName.toList := by
    intro hprefix
    have hmem := hprefix.subset (show ' ' ∈ constPrefix by decide)
    exact absurd (h.solid ' ' hmem).1 (by decide)
  rw [hspell]
  intro hprefix
  -- the name is either as long as the const and has its blank, or shorter and a mark comes next
  rcases List.prefix_or_prefix_of_prefix hprefix (List.prefix_append _ _) with hshort | ⟨rest, hrest⟩
  · exact hblank hshort
  · rw [← hrest, List.prefix_append_right_inj] at hprefix
    cases rest with
    | nil =>
      rw [List.append_nil] at hrest
      exact hblank ⟨[], by rw [hrest, List.append_nil]⟩
    | cons c rest =>
      obtain ⟨later, hlater⟩ := hprefix
      have hmark := t.marked_after_name c (by rw [← hlater]; rfl)
      rw [hunmarked c (by rw [← hrest]; simp)] at hmark
      cases hmark

theorem IsSolidName.head_bare (h : IsSolidName t.entry.qualifiedName) :
    ∀ c ∈ t.bare.spell.head?, Text.isBlank c = false := by
  have hne : t.entry.qualifiedName.toList ≠ [] := by simpa using h.nonempty
  obtain ⟨first, rest, hname⟩ := List.exists_cons_of_ne_nil hne
  intro c hc
  rw [spell_bare, hname, List.cons_append, List.head?_cons, Option.mem_some_iff] at hc
  exact (h.solid c (by rw [hname, ← hc]; exact List.mem_cons_self)).1

theorem IsSolidName.last_bare (h : IsSolidName t.entry.qualifiedName) :
    ∃ last, t.bare.spell.getLast? = some last ∧ Text.isBlank last = false ∧ last ≠ '&' ∧
      (last = '*' ↔ 0 < t.indirections) := by
  rw [spell_bare]
  cases hcount : t.indirections with
  | succ n =>
    refine ⟨'*', ?_, by decide, by decide, by simp⟩
    rw [List.replicate_succ', ← List.append_assoc, ← List.append_assoc, List.getLast?_concat]
  | zero =>
    cases harguments : t.arguments.map spell with
    | cons piece rest =>
      refine ⟨'>', ?_, by decide, by decide, by simp⟩
      rw [bracketed_cons, closing]
      simp [List.getLast?_append, List.getLast?_cons]
    | nil =>
      have hne : t.entry.qualifiedName.toList ≠ [] := by simpa using h.nonempty
      obtain ⟨hblank, hamp, hstar⟩ := h.solid _ (List.getLast_mem hne)
      refine ⟨_, ?_, hblank, hamp, by simp [hstar]⟩
      simp [bracketed, List.getLast?_eq_getLast_of_ne_nil hne]

theorem dropLeadingConst_append (cs : List Char) : dropLeadingConst (constPrefix ++ cs) = cs := rfl

theorem dropLeadingConst_eq_self {cs : List Char} (h : ¬constPrefix <+: cs) :
    dropLeadingConst cs = cs := by
  rw [dropLeadingConst, if_neg]
  intro hprefix
  exact h (List.isPrefixOf_iff_prefix.1 hprefix)

theorem IsSolidName.containerName_eq (h : IsSolidName t.entry.qualifiedName) :
    t.containerName = t.bare.spell := by
  obtain ⟨last, hlast, hblank, hamp, -⟩ := h.last_bare
  have hleading : dropLeadingConst t.spell =
      t.bare.spell ++ if t.reference then ['&'] else [] := by
    cases hconstant : t.constant with
    | true => rw [spell_eq_bare, if_pos hconstant, dropLeadingConst_append]
    | false =>
      rw [dropLeadingConst_eq_self (h.not_constant hconstant), spell_eq_bare, hconstant]
      rfl
  have htrim : Text.trim t.bare.spell = t.bare.spell := by
    apply Text.trim_eq_self h.head_bare
    intro c hc
    rw [hlast, Option.mem_some_iff] at hc
    rw [← hc, hblank]
  rw [containerName, hleading]
  cases t.reference with
  | true => simp [htrim]
  | false => simp [hlast, hamp]

theorem IsSolidName.containerSample_eq (h : IsSolidName t.entry.qualifiedName) :
    t.containerSample = if 0 < t.indirections then .null else .build t.bare.spelling [] := by
  obtain ⟨last, hlast, -, -, hstar⟩ := h.last_bare
  rw [containerSample, h.containerName_eq, hlast]
  by_cases hpointer : 0 < t.indirections
  · simp [hpointer, hstar.2 hpointer]
  · have hne : last ≠ '*' := fun heq => hpointer (hstar.1 heq)
    simp [hpointer, hne, spelling]

theorem isSpellable_bare (t : TypeUse) : t.bare.isSpellable = t.isSpellable := by
  obtain ⟨e, n, r, c, el, np, vp, as, p, d⟩ := t
  rw [bare, isSpellable, isSpellable]

end TypeUse

open TypeUse

theorem Sample.text_empty (name : String) : (Sample.build name []).text = "::" ++ name ++ "()" := by
  apply String.toList_inj.1
  simp [Sample.text_build, Text.commaList, Text.joinWith]

variable {api : Api} {t : TypeUse}

theorem Api.sampleType_of_container (h : t.isContainer = true) :
    api.sampleType t = { value := some t.containerSample, stopped := !t.isSpellable } := by
  have hobject : t.isObject = false := by
    have hkind : t.entry.kind = .container := by simpa [isContainer, Entry.isContainer] using h
    simp [isObject, Entry.isObject, hkind]
  rw [sampleType, sampleTypeWith, hobject, Bool.and_false, if_neg Bool.false_ne_true, if_pos h]

/-- The sample of a container whose name holds no blank, no star and no ampersand is the null pointer
when it has stars, and otherwise an empty container, named by the spelling without the const and the
ampersand of its own. So these two never change the sample. The spelling has all template arguments,
each as it is spelled by itself. -/
theorem container_sampled (api : Api) (hcontainer : t.isContainer = true)
    (hname : IsSolidName t.entry.qualifiedName) :
    (∃ s, api.sampleType t = { value := some s, stopped := !t.isSpellable } ∧
        (0 < t.indirections → s.text = "0") ∧
        (t.indirections = 0 → s.text = "::" ++ t.bare.spelling ++ "()")) ∧
      (∀ constant reference, api.sampleType { t with constant, reference } = api.sampleType t) ∧
      (t.indirections = 0 → t.bare.spelling.toList =
        t.entry.qualifiedName.toList ++ bracketed (t.arguments.map spell)) := by
  refine ⟨⟨t.containerSample, Api.sampleType_of_container hcontainer, ?_, ?_⟩, ?_, ?_⟩
  · intro hpointer
    rw [hname.containerSample_eq, if_pos hpointer]
    rfl
  · intro hplain
    rw [hname.containerSample_eq, if_neg (by omega), Sample.text_empty]
  · intro constant reference
    let other : TypeUse := { t with constant, reference }
    have hother : IsSolidName other.entry.qualifiedName := hname
    have hbare : other.bare = t.bare := rfl
    have hspellable : other.isSpellable = t.isSpellable := by
      rw [← isSpellable_bare, hbare, isSpellable_bare]
    rw [Api.sampleType_of_container hcontainer, Api.sampleType_of_container (t := other) hcontainer,
      hother.containerSample_eq, hname.containerSample_eq, hbare, hspellable]
  · intro hplain
    rw [spelling, String.toList_ofList, spell_bare, hplain, List.replicate_zero, List.append_nil]

theorem map_sampled :
    IsSolidName (mapUse 0).entry.qualifiedName ∧
      ((({} : Api).sampleType { mapUse 0 with indirections := 0 }).value.map Sample.text) =
        some "::ns::Map<const char*, vector<unsigned int> >()" ∧
      ((({} : Api).sampleType (mapUse 0)).value.map Sample.text) = some "0" := by
  have hname : IsSolidName (mapUse 0).entry.qualifiedName := by decide +kernel
  obtain ⟨⟨s, hs, -, hempty⟩, -⟩ := container_sampled {}
    (t := { mapUse 0 with indirections := 0 }) rfl hname
  obtain ⟨⟨s', hs', hnull, -⟩, -⟩ := container_sampled {} (t := mapUse 0) rfl hname
  refine ⟨hname, ?_, ?_⟩
  · rw [hs, Option.map_some, hempty rfl]
    decide +kernel
  · rw [hs', Option.map_some, hnull (by decide)]

end GlueCode
