import GlueCode.Api.TypeUse
import Mathlib.Data.List.Forall2
/-! # Reading spellings back

A spelling puts brackets, commas, stars and ampersands around names. When the names themselves hold
none of these and no name looks like a constant one, a spelling can be read in one way only: two type
uses are spelled alike just when they agree in everything that a spelling shows, and so do their
template arguments, at any depth. What reads off a piece of a spelling is what may follow it: the
names end at the next mark, and a blank comes after a closing bracket alone. -/
namespace GlueCode

theorem Text.split_unique {p : Char → Bool} {a b x y : List Char} (ha : ∀ c ∈ a, p c = false)
    (hb : ∀ c ∈ b, p c = false) (hx : ∀ c ∈ x.head?, p c = true)
    (hy : ∀ c ∈ y.head?, p c = true) (h : a ++ x = b ++ y) : a = b ∧ x = y := by
  induction a generalizing b with
  | nil =>
    cases b with
    | nil => exact ⟨rfl, h⟩
    | cons d b =>
      rw [List.nil_append] at h
      have hd := hx d (by simp [h])
      rw [hb d List.mem_cons_self] at hd
      exact absurd hd Bool.false_ne_true
  | cons c a ih =>
    cases b with
    | nil =>
      rw [List.nil_append] at h
      have hc := hy c (by simp [← h])
      rw [ha c List.mem_cons_self] at hc
      exact absurd hc Bool.false_ne_true
    | cons d b =>
      obtain ⟨rfl, hrest⟩ := List.cons.inj h
      obtain ⟨rfl, hxy⟩ := ih (fun c hc => ha c (List.mem_cons_of_mem _ hc))
        (fun c hc => hb c (List.mem_cons_of_mem _ hc)) hrest
      exact ⟨rfl, hxy⟩

namespace TypeUse

def isMark (c : Char) : Bool := c = '<' || c = '>' || c = '*' || c = '&' || c = ','

def constPrefix : List Char := ['c', 'o', 'n', 's', 't', ' ']

/-- A name that cannot be taken for anything else in a spelling. -/
structure IsPlainName (name : String) : Prop where
  nonempty : name ≠ ""
  unmarked : ∀ c ∈ name.toList, isMark c = false
  unqualified : ¬constPrefix <+: name.toList

instance (name : String) : Decidable (IsPlainName name) :=
  decidable_of_iff (name ≠ "" ∧ name.toList.all (fun c => !isMark c) = true ∧
      ¬constPrefix <+: name.toList)
    ⟨fun ⟨h, h', h''⟩ => ⟨h, by simpa using h', h''⟩,
      fun ⟨h, h', h''⟩ => ⟨h, by simpa using h', h''⟩⟩

inductive PlainlyNamed : TypeUse → Prop where
  | intro {t : TypeUse} (name : IsPlainName t.entry.qualifiedName)
      (arguments : ∀ a ∈ t.arguments, PlainlyNamed a) : PlainlyNamed t

/-- Type uses that agree in their names and qualifiers, and argument by argument. -/
inductive Agrees : TypeUse → TypeUse → Prop where
  | intro {t u : TypeUse} (name : t.entry.qualifiedName = u.entry.qualifiedName)
      (constant : t.constant = u.constant) (reference : t.reference = u.reference)
      (indirections : t.indirections = u.indirections)
      (count : t.arguments.length = u.arguments.length)
      (arguments : ∀ i (h : i < t.arguments.length) (h' : i < u.arguments.length),
        Agrees t.arguments[i] u.arguments[i]) : Agrees t u

def front (t : TypeUse) : List Char :=
  (if t.constant then constPrefix else []) ++ t.entry.qualifiedName.toList

def back (t : TypeUse) : List Char :=
  List.replicate t.indirections '*' ++ if t.reference then ['&'] else []

theorem spell_eq (t : TypeUse) :
    t.spell = t.front ++ (bracketed (t.arguments.map spell) ++ t.back) := by
  cases t
  simp [spell, front, back, constPrefix, spellAll_eq_map]

def closing (inner : List Char) : List Char :=
  (if inner.getLast? = some '>' then [' '] else []) ++ ['>']

theorem bracketed_cons (piece : List Char) (rest : List (List Char)) :
    bracketed (piece :: rest) =
      '<' :: (Text.joinWith [',', ' '] (piece :: rest) ++
        closing (Text.joinWith [',', ' '] (piece :: rest))) := by
  simp [bracketed, closing]

theorem closing_append (piece inner : List Char) :
    closing (piece ++ [',', ' '] ++ inner) = closing inner := by
  have hlast : (piece ++ [',', ' '] ++ inner).getLast? = some '>' ↔ inner.getLast? = some '>' := by
    cases inner with
    | nil => simp
    | cons c inner => simp [List.getLast?_append]
  simp only [closing, hlast]

theorem closing_append_inj {inner inner' r r' : List Char}
    (h : closing inner ++ r = closing inner' ++ r') : r = r' := by
  unfold closing at h
  split at h <;> split at h <;> simp_all

theorem closing_head (inner r : List Char) : ∃ c rest, closing inner ++ r = c :: rest ∧ c ≠ ',' := by
  unfold closing
  split
  · exact ⟨' ', '>' :: r, rfl, by decide⟩
  · exact ⟨'>', r, rfl, by decide⟩

/-- The text can come after a spelling: it is empty, or it goes on to the next argument or to the
end of the arguments. -/
inductive Follows (t : TypeUse) : List Char → Prop where
  | nothing : Follows t []
  | next (rest : List Char) : Follows t (',' :: rest)
  | close (rest : List Char) : Follows t ('>' :: rest)
  | blank (rest : List Char) (h : t.spell.getLast? = some '>') : Follows t (' ' :: rest)

theorem follows_closing (t : TypeUse) (r : List Char) : Follows t (closing t.spell ++ r) := by
  unfold closing
  split
  · next h => exact .blank _ h
  · exact .close _

variable {t u : TypeUse}

theorem IsPlainName.front_unmarked (h : IsPlainName t.entry.qualifiedName) :
    ∀ c ∈ t.front, isMark c = false := by
  have hconst : ∀ c ∈ constPrefix, isMark c = false := by simp [constPrefix, isMark]
  intro c hc
  rcases List.mem_append.1 hc with hc | hc
  · split at hc
    · exact hconst c hc
    · simp at hc
  · exact h.unmarked c hc

theorem IsPlainName.front_inj (ht : IsPlainName t.entry.qualifiedName)
    (hu : IsPlainName u.entry.qualifiedName) (h : t.front = u.front) :
    t.constant = u.constant ∧ t.entry.qualifiedName = u.entry.qualifiedName := by
  unfold front at h
  cases htc : t.constant <;> cases huc : u.constant <;> simp only [htc, huc] at h
  · exact ⟨rfl, String.toList_inj.1 (by simpa using h)⟩
  · exact absurd ⟨u.entry.qualifiedName.toList, by simpa using h.symm⟩ ht.unqualified
  · exact absurd ⟨t.entry.qualifiedName.toList, by simpa using h⟩ hu.unqualified
  · exact ⟨rfl, String.toList_inj.1 (by simpa using h)⟩

theorem marked_after_name (t : TypeUse) :
    ∀ c ∈ (bracketed (t.arguments.map spell) ++ t.back).head?, isMark c = true := by
  intro c hc
  cases harguments : t.arguments.map spell with
  | cons piece rest =>
    rw [harguments, bracketed_cons] at hc
    obtain rfl : '<' = c := by simpa using hc
    rfl
  | nil =>
    rw [harguments, bracketed, List.nil_append] at hc
    rcases List.mem_append.1 (List.mem_of_head? hc) with hstar | hamp
    · rw [List.eq_of_mem_replicate hstar]
      rfl
    · split at hamp
      · rw [List.mem_singleton.1 hamp]
        rfl
      · simp at hamp

/-- After the name stands a mark, if anything: a blank would need a bracket before it. -/
theorem IsPlainName.mark_after (h : IsPlainName t.entry.qualifiedName) {r : List Char}
    (hr : Follows t r) :
    ∀ c ∈ (bracketed (t.arguments.map spell) ++ t.back ++ r).head?, isMark c = true := by
  intro c hc
  cases hafter : bracketed (t.arguments.map spell) ++ t.back with
  | cons d rest =>
    rw [hafter, List.cons_append] at hc
    exact t.marked_after_name c (by rw [hafter]; exact hc)
  | nil =>
    rw [hafter, List.nil_append] at hc
    cases hr with
    | nothing => simp at hc
    | next | close =>
      obtain rfl := by simpa using hc
      rfl
    | blank rest hlast =>
      have hspell : t.spell = t.front := by
        rw [spell_eq, hafter]
        exact List.append_nil _
      have hmark := h.front_unmarked '>' (List.mem_of_getLast? (hspell ▸ hlast))
      exact absurd hmark (by decide)

theorem Follows.head {r : List Char} (hr : Follows t r) :
    ∀ c ∈ r.head?, c ≠ '*' ∧ c ≠ '&' ∧ c ≠ '<' := by
  intro c hc
  cases hr with
  | nothing => simp at hc
  | next | close | blank =>
    obtain rfl := by simpa using hc
    decide

theorem Follows.not_bracket {r : List Char} (hr : Follows t r) (rest : List Char) :
    t.back ++ r ≠ '<' :: rest := by
  intro h
  cases hback : t.back with
  | cons d more =>
    have hd : d ∈ t.back := by simp [hback]
    rw [hback] at h
    obtain ⟨rfl, -⟩ := List.cons.inj h
    rcases List.mem_append.1 hd with hd | hd
    · exact absurd (List.eq_of_mem_replicate hd) (by decide)
    · split at hd <;> simp at hd
  | nil =>
    rw [hback, List.nil_append] at h
    exact (hr.head '<' (by simp [h])).2.2 rfl

theorem back_inj {r r' : List Char} (hr : Follows t r) (hr' : Follows u r')
    (h : t.back ++ r = u.back ++ r') :
    t.indirections = u.indirections ∧ t.reference = u.reference ∧ r = r' := by
  have hstars : ∀ n, ∀ c ∈ List.replicate n '*', (c != '*') = false := by
    intro n c hc
    simp [List.eq_of_mem_replicate hc]
  have hamp : ∀ {v : TypeUse} {x : List Char} (b : Bool), Follows v x →
      ∀ c ∈ ((if b then ['&'] else []) ++ x).head?, (c != '*') = true := by
    intro v x b hx c hc
    cases b with
    | true =>
      obtain rfl : '&' = c := by simpa using hc
      rfl
    | false => simpa using (hx.head c (by simpa using hc)).1
  unfold back at h
  rw [List.append_assoc, List.append_assoc] at h
  obtain ⟨hcount, hrest⟩ := Text.split_unique (hstars _) (hstars _) (hamp _ hr) (hamp _ hr') h
  refine ⟨by simpa using congrArg List.length hcount, ?_⟩
  cases htr : t.reference <;> cases hur : u.reference <;>
    simp only [htr, hur, if_true, Bool.false_eq_true, if_false, List.cons_append, List.nil_append,
      List.cons.injEq, true_and] at hrest
  · exact ⟨rfl, hrest⟩
  · exact absurd rfl (hr.head '&' (by rw [hrest]; rfl)).2.1
  · exact absurd rfl (hr'.head '&' (by rw [← hrest]; rfl)).2.1
  · exact ⟨rfl, hrest⟩

/-- In whatever text the spelling stands, all that a spelling shows can be read off it, and it is
clear where it ends. -/
def Readable (t : TypeUse) : Prop :=
  ∀ (u : TypeUse) (r r' : List Char), PlainlyNamed u → Follows t r → Follows u r' →
    t.spell ++ r = u.spell ++ r' → t.Agrees u ∧ r = r'

def argumentsText (ts : List TypeUse) (r : List Char) : List Char :=
  let inner := Text.joinWith [',', ' '] (ts.map spell)
  inner ++ (closing inner ++ r)

theorem argumentsText_cons (t next : TypeUse) (ts : List TypeUse) (r : List Char) :
    argumentsText (t :: next :: ts) r = t.spell ++ ',' :: ' ' :: argumentsText (next :: ts) r := by
  have hjoin : Text.joinWith [',', ' '] ((t :: next :: ts).map spell) =
      t.spell ++ [',', ' '] ++ Text.joinWith [',', ' '] ((next :: ts).map spell) :=
    Text.joinWith_cons (by simp)
  simp only [argumentsText, hjoin, closing_append]
  simp

theorem arguments_agree {ts us : List TypeUse} {r r' : List Char} (hts : ts ≠ [])
    (hus : us ≠ []) (hread : ∀ a ∈ ts, Readable a) (hplain : ∀ a ∈ us, PlainlyNamed a)
    (h : argumentsText ts r = argumentsText us r') : List.Forall₂ Agrees ts us ∧ r = r' := by
  induction ts generalizing us with
  | nil => exact absurd rfl hts
  | cons t ts ih =>
    cases us with
    | nil => exact absurd rfl hus
    | cons u us =>
      have hu := hplain u List.mem_cons_self
      have ht := fun r r' => hread t List.mem_cons_self u r r' hu
      cases ts with
      | nil =>
        cases us with
        | nil =>
          obtain ⟨hagrees, hrest⟩ := ht _ _ (follows_closing t r) (follows_closing u r') h
          exact ⟨.cons hagrees .nil, closing_append_inj hrest⟩
        | cons u' us =>
          rw [argumentsText_cons] at h
          obtain ⟨-, hrest⟩ := ht _ _ (follows_closing t r) (.next _) h
          obtain ⟨c, rest, hhead, hc⟩ := closing_head t.spell r
          rw [hhead] at hrest
          exact absurd (List.cons.inj hrest).1 hc
      | cons t' ts =>
        cases us with
        | nil =>
          rw [argumentsText_cons] at h
          obtain ⟨-, hrest⟩ := ht _ _ (.next _) (follows_closing u r') h
          obtain ⟨c, rest, hhead, hc⟩ := closing_head u.spell r'
          rw [hhead] at hrest
          exact absurd (List.cons.inj hrest).1.symm hc
        | cons u' us =>
          rw [argumentsText_cons, argumentsText_cons] at h
          obtain ⟨hagrees, hrest⟩ := ht _ _ (.next _) (.next _) h
          have hrest' := (List.cons.inj (List.cons.inj hrest).2).2
          obtain ⟨hall, hr⟩ := ih (List.cons_ne_nil _ _) (List.cons_ne_nil _ _)
            (fun a ha => hread a (List.mem_cons_of_mem _ ha))
            (fun a ha => hplain a (List.mem_cons_of_mem _ ha)) hrest'
          exact ⟨.cons hagrees hall, hr⟩

theorem bracketed_append {ts : List TypeUse} (h : ts ≠ []) (r : List Char) :
    bracketed (ts.map spell) ++ r = '<' :: argumentsText ts r := by
  obtain ⟨t, ts, rfl⟩ := List.exists_cons_of_ne_nil h
  rw [List.map_cons, bracketed_cons, argumentsText]
  simp

/-- The induction is on the arguments, which stand at any depth. -/
theorem PlainlyNamed.readable (h : PlainlyNamed t) : Readable t := by
  induction h with
  | @intro t hname _ ih =>
    intro u r r' hu hr hr' heq
    obtain ⟨huname, huarguments⟩ := hu
    rw [spell_eq, spell_eq, List.append_assoc t.front, List.append_assoc u.front] at heq
    obtain ⟨hfront, hrest⟩ := Text.split_unique hname.front_unmarked huname.front_unmarked
      (hname.mark_after hr) (huname.mark_after hr') heq
    obtain ⟨hconstant, hsame⟩ := hname.front_inj huname hfront
    rw [List.append_assoc, List.append_assoc] at hrest
    have harguments : List.Forall₂ Agrees t.arguments u.arguments ∧
        t.back ++ r = u.back ++ r' := by
      by_cases hts : t.arguments = [] <;> by_cases hus : u.arguments = []
      · rw [hts, hus] at hrest ⊢
        exact ⟨.nil, hrest⟩
      · rw [hts, bracketed_append hus] at hrest
        exact absurd hrest (hr.not_bracket _)
      · rw [hus, bracketed_append hts] at hrest
        exact absurd hrest.symm (hr'.not_bracket _)
      · rw [bracketed_append hts, bracketed_append hus] at hrest
        exact arguments_agree hts hus ih huarguments (List.cons.inj hrest).2
    obtain ⟨hall, hback⟩ := harguments
    obtain ⟨hindirections, hreference, hend⟩ := back_inj hr hr' hback
    refine ⟨.intro hsame hconstant hreference hindirections hall.length_eq ?_, hend⟩
    intro i hi hi'
    exact hall.get hi hi'

theorem Agrees.spell_eq (h : t.Agrees u) : t.spell = u.spell := by
  induction h with
  | @intro t u hname hconstant hreference hindirections hcount _ ih =>
    have harguments : t.arguments.map spell = u.arguments.map spell := by
      refine List.ext_getElem (by simpa using hcount) fun i hi hi' => ?_
      simpa using ih i (by simpa using hi) (by simpa using hi')
    rw [TypeUse.spell_eq, TypeUse.spell_eq, front, front, back, back, hname, hconstant, hreference,
      hindirections, harguments]

/-- A spelling is uniquely readable when names are plain. -/
theorem spelling_eq_iff (ht : PlainlyNamed t) (hu : PlainlyNamed u) :
    t.spelling = u.spelling ↔ t.Agrees u := by
  constructor
  · intro h
    have hspell : t.spell = u.spell := String.ofList_injective h
    exact (ht.readable u [] [] hu .nothing .nothing (by rw [hspell])).1
  · intro h
    rw [spelling, spelling, h.spell_eq]

def mapUse (handle : Nat) : TypeUse where
  entry := { handle, kind := .container, name := "Map", scopedName := "ns::Map" }
  indirections := 1
  reference := true
  constant := true
  arguments :=
    [{ entry := { handle := handle + 1, kind := .builtin, name := "char" }
       indirections := 1, constant := true },
      { entry := { handle := handle + 2, kind := .container, name := "vector" }
        arguments :=
          [{ entry := { handle := handle + 3, kind := .builtin, name := "unsigned int" } }] }]

theorem mapUse_plain (handle : Nat) : (mapUse handle).PlainlyNamed := by
  have hnumber : PlainlyNamed
      { entry := { handle := handle + 3, kind := .builtin, name := "unsigned int" } } :=
    .intro (show IsPlainName "unsigned int" by decide +kernel) (by simp)
  refine .intro (show IsPlainName "ns::Map" by decide +kernel) ?_
  intro a ha
  rcases List.mem_cons.1 ha with rfl | ha
  · exact .intro (show IsPlainName "char" by decide +kernel) (by simp)
  · rw [List.mem_singleton.1 ha]
    exact .intro (show IsPlainName "vector" by decide +kernel) (by simpa using hnumber)

theorem maps_agree :
    (mapUse 0).PlainlyNamed ∧ (mapUse 4).PlainlyNamed ∧ mapUse 0 ≠ mapUse 4 ∧
      (mapUse 0).spelling = "const ns::Map<const char*, vector<unsigned int> >*&" ∧
      (mapUse 0).Agrees (mapUse 4) := by
  have hspelling : (mapUse 0).spelling = (mapUse 4).spelling := by decide +kernel
  refine ⟨mapUse_plain 0, mapUse_plain 4, by decide +kernel, by decide +kernel, ?_⟩
  exact (spelling_eq_iff (mapUse_plain 0) (mapUse_plain 4)).1 hspelling

/-- A name that looks like a constant one is taken for it. -/
example : ({ entry := { handle := 1, kind := .object, name := "const A" } } : TypeUse).spelling =
    ({ entry := { handle := 2, kind := .object, name := "A" }, constant := true } :
      TypeUse).spelling := by
  decide +kernel

end TypeUse

end GlueCode
