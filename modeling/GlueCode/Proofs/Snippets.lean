import GlueCode.Placeholder
import Mathlib.Data.List.Forall2
import Mathlib.Data.List.TakeWhile
/-! # Snippets filled in one pass

A snippet splits in one way only into characters and slots. A slot is a percent sign with the name
of a slot, or with a number and all its digits; no name starts another one and none holds a percent
sign, so it does not matter in which order names are tried, and a percent sign always starts afresh.
Filling a snippet puts the texts of its pieces in a row, where each slot gives way to what it stands
for. -/
namespace GlueCode

namespace Slot

variable {s other : Slot} {cs rest more digits : List Char}

def EndsBefore (rest : List Char) : Slot → Prop
  | .number digits => digits ≠ [] ∧ (∀ d ∈ digits, Text.isDigit d = true) ∧
      ∀ d ∈ rest.head?, Text.isDigit d = false
  | _ => True

/-- A text starts with what stands behind the percent sign of a slot, and `rest` comes after it. -/
structure Starts (s : Slot) (cs rest : List Char) : Prop where
  split : cs = s.name ++ rest
  ends : s.EndsBefore rest

theorem name_number (digits : List Char) : (number digits).name = digits := rfl

theorem named_names :
    (∀ s ∈ named, ∀ other ∈ named, s.name <+: other.name → s = other) ∧
      (∀ s ∈ named, s.name ≠ [] ∧ '%' ∉ s.name ∧ s.name.all (!Text.isDigit ·) = true) ∧
      Text.isDigit '%' = false := by
  decide +kernel

theorem named_ne_nil (hs : s ∈ named) : s.name ≠ [] := (named_names.2.1 s hs).1

theorem named_no_percent (hs : s ∈ named) : '%' ∉ s.name := (named_names.2.1 s hs).2.1

theorem named_no_digit (hs : s ∈ named) {d : Char} (hd : d ∈ s.name) : Text.isDigit d = false := by
  have hall := List.all_eq_true.1 (named_names.2.1 s hs).2.2 d hd
  simpa using hall

theorem percent_no_digit : Text.isDigit '%' = false := named_names.2.2

theorem mem_named_or (s : Slot) : s ∈ named ∨ ∃ digits, s = .number digits := by
  cases s with
  | number digits => exact .inr ⟨digits, rfl⟩
  | _ => exact .inl (by decide)

theorem endsBefore_of_named (hs : s ∈ named) (rest : List Char) : s.EndsBefore rest := by
  cases s with
  | number digits => simp [named] at hs
  | _ => trivial

theorem eq_of_named_starts (hs : s ∈ named) (hother : other ∈ named) (h : s.name <+: cs)
    (h' : other.name <+: cs) : s = other := by
  rcases List.prefix_or_prefix_of_prefix h h' with hle | hle
  · exact named_names.1 s hs other hother hle
  · exact (named_names.1 other hother s hs hle).symm

theorem find_named_iff : (named.find? fun x => x.name.isPrefixOf cs) = some s ↔
    s ∈ named ∧ s.name <+: cs := by
  constructor
  · intro h
    exact ⟨List.mem_of_find?_eq_some h, by simpa using List.find?_some h⟩
  · rintro ⟨hs, hstart⟩
    cases hfind : named.find? fun x => x.name.isPrefixOf cs with
    | none => exact absurd (List.isPrefixOf_iff_prefix.2 hstart) (List.find?_eq_none.1 hfind s hs)
    | some other =>
      have hother : other.name <+: cs := by simpa using List.find?_some hfind
      rw [eq_of_named_starts (List.mem_of_find?_eq_some hfind) hs hother hstart]

theorem find_named_digits {d : Char} (hd : Text.isDigit d = true) :
    (named.find? fun x => x.name.isPrefixOf (d :: cs)) = none := by
  rw [Option.eq_none_iff_forall_ne_some]
  intro x hx
  obtain ⟨hx, hstart⟩ := find_named_iff.1 hx
  obtain ⟨c, name, hname⟩ := List.exists_cons_of_ne_nil (named_ne_nil hx)
  rw [hname, List.cons_prefix_cons] at hstart
  have hc := named_no_digit hx (d := c) (by simp [hname])
  rw [hstart.1, hd] at hc
  cases hc

theorem takeWhile_digits (hdigits : ∀ d ∈ digits, Text.isDigit d = true)
    (hend : ∀ d ∈ rest.head?, Text.isDigit d = false) :
    (digits ++ rest).takeWhile Text.isDigit = digits := by
  rw [List.takeWhile_append_of_pos hdigits]
  cases rest with
  | nil => simp
  | cons c rest => simp [hend c rfl]

theorem at?_number (h : EndsBefore rest (.number digits)) :
    at? (digits ++ rest) = some (.number digits) := by
  obtain ⟨hsome, hdigits, hend⟩ := h
  have htake := takeWhile_digits hdigits hend
  have hnone : (named.find? fun x => x.name.isPrefixOf (digits ++ rest)) = none := by
    obtain ⟨d, others, rfl⟩ := List.exists_cons_of_ne_nil hsome
    exact find_named_digits (hdigits d List.mem_cons_self)
  rw [at?, hnone]
  simp only [htake]
  rw [if_neg (by simpa using hsome)]

/-- Names are tried first and digits are taken as far as they go, so a slot is found just where the
text starts with it. -/
theorem at?_eq_some_iff : at? cs = some s ↔ ∃ rest, s.Starts cs rest := by
  constructor
  · intro h
    rw [at?] at h
    cases hfind : named.find? fun x => x.name.isPrefixOf cs with
    | some other =>
      rw [hfind] at h
      obtain rfl := Option.some.inj h
      obtain ⟨hs, rest, hsplit⟩ := find_named_iff.1 hfind
      exact ⟨rest, hsplit.symm, endsBefore_of_named hs rest⟩
    | none =>
      rw [hfind] at h
      simp only at h
      split at h
      · cases h
      · next hsome =>
        obtain rfl := Option.some.inj h
        refine ⟨cs.dropWhile Text.isDigit, List.takeWhile_append_dropWhile.symm, ?_, ?_, ?_⟩
        · simpa using hsome
        · exact fun d hd => List.mem_takeWhile_imp hd
        · intro d hd
          have hstop := List.head?_dropWhile_not Text.isDigit cs
          rw [Option.mem_def.1 hd] at hstop
          simpa using hstop
  · rintro ⟨rest, rfl, hends⟩
    rcases mem_named_or s with hs | ⟨digits, rfl⟩
    · rw [at?, find_named_iff.2 ⟨hs, List.prefix_append _ _⟩]
    · exact at?_number hends

theorem at?_eq_none_iff : at? cs = none ↔ ∀ s rest, ¬Starts s cs rest := by
  rw [Option.eq_none_iff_forall_ne_some]
  refine forall_congr' fun s => ?_
  rw [ne_eq, at?_eq_some_iff, not_exists]

theorem Starts.no_percent (h : s.Starts cs rest) : '%' ∉ s.name := by
  rcases mem_named_or s with hs | ⟨digits, rfl⟩
  · exact named_no_percent hs
  · intro hpercent
    have hdigit := h.ends.2.1 '%' hpercent
    rw [percent_no_digit] at hdigit
    cases hdigit

theorem endsBefore_append : s.EndsBefore (rest ++ '%' :: more) ↔ s.EndsBefore rest := by
  cases s with
  | number digits =>
    cases rest with
    | nil => simp [EndsBefore, percent_no_digit]
    | cons c rest => rfl
  | _ => rfl

theorem Starts.append (h : s.Starts cs rest) (more : List Char) :
    s.Starts (cs ++ '%' :: more) (rest ++ '%' :: more) where
  split := by rw [h.split, List.append_assoc]
  ends := endsBefore_append.2 h.ends

theorem Starts.of_append (h : s.Starts (cs ++ '%' :: more) rest) :
    ∃ rest', s.Starts cs rest' := by
  have hfree := h.no_percent
  rcases List.append_eq_append_iff.1 h.split with ⟨y, hname, hmore⟩ | ⟨y, hcs, hrest⟩
  · -- the name would reach the percent sign
    cases y with
    | nil =>
      refine ⟨[], by simpa using hname.symm, ?_⟩
      rw [List.nil_append] at hmore
      have hends := h.ends
      rwa [← hmore, ← List.nil_append ('%' :: more), endsBefore_append] at hends
    | cons c y =>
      obtain ⟨rfl, -⟩ := List.cons.inj hmore
      exact absurd (by simp [hname]) hfree
  · have hends := h.ends
    rw [hrest, endsBefore_append] at hends
    exact ⟨y, hcs, hends⟩

end Slot

variable {s : Slot} {p : Piece} {ps qs : List Piece} {c : Char} {cs rest code : List Char}

/-- A snippet is made of these pieces, in this order. A percent sign is a plain character where no
slot starts. -/
inductive SplitsInto : List Piece → List Char → Prop where
  | nil : SplitsInto [] []
  | plain {c : Char} {cs : List Char} {ps : List Piece}
      (hplain : c = '%' → ∀ s rest, ¬Slot.Starts s cs rest) (h : SplitsInto ps cs) :
      SplitsInto (.plain c :: ps) (c :: cs)
  | slot {s : Slot} {cs rest : List Char} {ps : List Piece} (hstarts : s.Starts cs rest)
      (h : SplitsInto ps rest) : SplitsInto (.slot s :: ps) ('%' :: cs)

theorem piecesFrom_skip (word rest : List Char) :
    piecesFrom word.length (word ++ rest) = piecesFrom 0 rest := by
  induction word with
  | nil => rfl
  | cons c word ih => rw [List.length_cons, List.cons_append, piecesFrom, ih]

theorem pieces_plain (h : c = '%' → ∀ s rest, ¬Slot.Starts s cs rest) :
    pieces (c :: cs) = .plain c :: pieces cs := by
  rw [pieces, piecesFrom]
  by_cases hc : c = '%'
  · rw [if_pos hc, Slot.at?_eq_none_iff.2 (h hc)]
    rfl
  · rw [if_neg hc]
    rfl

theorem pieces_slot (h : s.Starts cs rest) : pieces ('%' :: cs) = .slot s :: pieces rest := by
  rw [pieces, piecesFrom, if_pos rfl, Slot.at?_eq_some_iff.2 ⟨rest, h⟩]
  simp only
  rw [h.split, piecesFrom_skip]
  rfl

theorem SplitsInto.eq_pieces (h : SplitsInto ps code) : ps = pieces code := by
  induction h with
  | nil => rfl
  | plain hplain _ ih => rw [pieces_plain hplain, ih]
  | slot hstarts _ ih => rw [pieces_slot hstarts, ih]

theorem splitsInto_pieces (code : List Char) : SplitsInto (pieces code) code := by
  induction hn : code.length using Nat.strong_induction_on generalizing code with
  | _ n ih =>
    cases code with
    | nil => exact .nil
    | cons c cs =>
      rw [List.length_cons] at hn
      by_cases hslot : c = '%' ∧ ∃ s rest, Slot.Starts s cs rest
      · obtain ⟨rfl, s, rest, hstarts⟩ := hslot
        have hlength := congrArg List.length hstarts.split
        rw [List.length_append] at hlength
        rw [pieces_slot hstarts]
        exact .slot hstarts (ih rest.length (by omega) rest rfl)
      · have hplain : c = '%' → ∀ s rest, ¬Slot.Starts s cs rest :=
          fun hc s rest hstarts => hslot ⟨hc, s, rest, hstarts⟩
        rw [pieces_plain hplain]
        exact .plain hplain (ih cs.length (by omega) cs rfl)

theorem splitsInto_iff : SplitsInto ps code ↔ ps = pieces code := by
  constructor
  · exact SplitsInto.eq_pieces
  · rintro rfl
    exact splitsInto_pieces code

theorem SplitsInto.chars (h : SplitsInto ps code) : ps.flatMap Piece.chars = code := by
  induction h with
  | nil => rfl
  | plain _ _ ih => rw [List.flatMap_cons, ih, Piece.chars, List.singleton_append]
  | slot hstarts _ ih =>
    rw [List.flatMap_cons, ih, Piece.chars, List.cons_append, ← hstarts.split]

theorem SplitsInto.append_percent {more : List Char} (h : SplitsInto ps cs)
    (hmore : SplitsInto qs ('%' :: more)) : SplitsInto (ps ++ qs) (cs ++ '%' :: more) := by
  induction h with
  | nil => exact hmore
  | plain hplain _ ih =>
    refine .plain (fun hc s rest hstarts => ?_) ih
    obtain ⟨rest', hstarts'⟩ := hstarts.of_append
    exact hplain hc s rest' hstarts'
  | slot hstarts _ ih => exact .slot (hstarts.append more) ih

theorem pieces_append_percent (cs more : List Char) :
    pieces (cs ++ '%' :: more) = pieces cs ++ pieces ('%' :: more) :=
  ((splitsInto_pieces cs).append_percent (splitsInto_pieces ('%' :: more))).eq_pieces.symm

theorem slot_mem_pieces_iff (hs : s ∈ Slot.named) :
    .slot s ∈ pieces code ↔ (Piece.slot s).chars <:+: code := by
  constructor
  · intro hmem
    obtain ⟨front, back, hpieces⟩ := List.append_of_mem hmem
    have hchars := (splitsInto_pieces code).chars
    rw [hpieces, List.flatMap_append, List.flatMap_cons, ← List.append_assoc] at hchars
    exact ⟨_, _, hchars⟩
  · rintro ⟨front, back, rfl⟩
    have hstarts : s.Starts (s.name ++ back) back := ⟨rfl, Slot.endsBefore_of_named hs back⟩
    rw [Piece.chars, List.append_assoc, List.cons_append, pieces_append_percent,
      pieces_slot hstarts]
    simp

/-! ## What pieces give way to -/

namespace Callable

/-- What a piece of a snippet gives way to in a function. Numbers count the arguments from one; the
last argument with the number counts. -/
inductive Fills (w : ArgumentWriter) (f : Callable) : Piece → List Char → Prop where
  | plain (c : Char) : Fills w f (.plain c) [c]
  | resultType : Fills w f (.slot .resultType) (typeText {} f.owner f.result).toList
  | functionName : Fills w f (.slot .functionName) f.libraryName.toList
  | argumentNames :
      Fills w f (.slot .argumentNames) (w.names f ArgumentWriter.namesOptions).toList
  | arguments :
      Fills w f (.slot .arguments) (w.declarations f ArgumentWriter.declarationOptions).toList
  | typeName {owner : ClassHead} (h : f.owner = some owner) :
      Fills w f (.slot .typeName) owner.name.toList
  | noOwner (h : f.owner = none) : Fills w f (.slot .typeName) "%TYPE".toList
  | number {digits : List Char} {front back : List Argument} {a : Argument}
      (h : f.arguments = front ++ a :: back) (ha : (a.index + 1).repr.toList = digits)
      (hlast : ∀ x ∈ back, (x.index + 1).repr.toList ≠ digits) :
      Fills w f (.slot (.number digits)) a.name.toList
  | noArgument {digits : List Char}
      (h : ∀ a ∈ f.arguments, (a.index + 1).repr.toList ≠ digits) :
      Fills w f (.slot (.number digits)) ('%' :: digits)

variable {w : ArgumentWriter} {f : Callable}

theorem argumentNumbered?_eq_some_iff {digits : List Char} {a : Argument} :
    f.argumentNumbered? digits = some a ↔ (a.index + 1).repr.toList = digits ∧
      ∃ front back, f.arguments = front ++ a :: back ∧
        ∀ x ∈ back, (x.index + 1).repr.toList ≠ digits := by
  rw [argumentNumbered?, List.find?_eq_some_iff_append]
  simp only [decide_eq_true_eq, Bool.not_eq_true', decide_eq_false_iff_not]
  refine and_congr_right fun _ => ?_
  constructor
  · rintro ⟨back, front, hsplit, hlast⟩
    refine ⟨front.reverse, back.reverse, ?_, fun x hx => hlast x (List.mem_reverse.1 hx)⟩
    rw [← List.reverse_reverse f.arguments, hsplit]
    simp
  · rintro ⟨front, back, hsplit, hlast⟩
    refine ⟨back.reverse, front.reverse, ?_, fun x hx => hlast x (List.mem_reverse.1 hx)⟩
    rw [hsplit]
    simp

theorem argumentNumbered?_eq_none_iff {digits : List Char} :
    f.argumentNumbered? digits = none ↔
      ∀ a ∈ f.arguments, (a.index + 1).repr.toList ≠ digits := by
  simp [argumentNumbered?]

theorem Fills.eq_fill {text : List Char} (h : f.Fills w p text) :
    text = p.fill (f.slotValue (w.texts f)) := by
  cases h with
  | typeName h => simp [Piece.fill, slotValue, h]
  | noOwner h =>
    simp only [Piece.fill, slotValue, h, Option.map_none, Option.getD_none]
    rfl
  | number h ha hlast =>
    have hfound := argumentNumbered?_eq_some_iff.2 ⟨ha, _, _, h, hlast⟩
    simp [Piece.fill, slotValue, hfound]
  | noArgument h =>
    have hnone := argumentNumbered?_eq_none_iff.2 h
    simp [Piece.fill, slotValue, hnone, Piece.chars, Slot.name_number]
  | _ => rfl

theorem fills_typeName : f.Fills w (.slot .typeName)
    (Piece.fill (f.slotValue (w.texts f)) (.slot .typeName)) := by
  cases howner : f.owner with
  | none =>
    simp only [Piece.fill, slotValue, howner, Option.map_none, Option.getD_none]
    exact .noOwner howner
  | some owner =>
    simp only [Piece.fill, slotValue, howner, Option.map_some, Option.getD_some]
    exact .typeName howner

theorem fills_number (digits : List Char) : f.Fills w (.slot (.number digits))
    (Piece.fill (f.slotValue (w.texts f)) (.slot (.number digits))) := by
  cases hfound : f.argumentNumbered? digits with
  | none =>
    simp only [Piece.fill, slotValue, hfound, Option.map_none, Option.getD_none]
    exact .noArgument (argumentNumbered?_eq_none_iff.1 hfound)
  | some a =>
    simp only [Piece.fill, slotValue, hfound, Option.map_some, Option.getD_some]
    obtain ⟨ha, front, back, hsplit, hlast⟩ := argumentNumbered?_eq_some_iff.1 hfound
    exact .number hsplit ha hlast

theorem fills_fill (p : Piece) : f.Fills w p (p.fill (f.slotValue (w.texts f))) := by
  cases p with
  | plain c => exact .plain c
  | slot s =>
    cases s with
    | resultType => exact .resultType
    | functionName => exact .functionName
    | argumentNames => exact .argumentNames
    | arguments => exact .arguments
    | typeName => exact fills_typeName
    | number digits => exact fills_number digits

theorem fills_iff {text : List Char} :
    f.Fills w p text ↔ text = p.fill (f.slotValue (w.texts f)) := by
  constructor
  · exact Fills.eq_fill
  · rintro rfl
    exact fills_fill p

theorem fillsAll_iff {texts : List (List Char)} :
    List.Forall₂ (f.Fills w) ps texts ↔ texts = ps.map (Piece.fill (f.slotValue (w.texts f))) := by
  have hfills : f.Fills w = fun p text => Piece.fill (f.slotValue (w.texts f)) p = text := by
    funext p text
    exact propext (fills_iff.trans eq_comm)
  rw [hfills, ← List.forall₂_map_left_iff, List.forall₂_eq_eq_eq, eq_comm]

/-- The values of slots when the texts of the arguments are made only where the snippet mentions
them. -/
def askedValue (w : ArgumentWriter) (f : Callable) (code : List Char) (s : Slot) :
    Option (List Char) :=
  if s = .argumentNames ∨ s = .arguments then
    if (TypeUse.lastIndexOf? (Piece.slot s).chars code).isSome then f.slotValue (w.texts f) s
    else none
  else f.slotValue (w.texts f) s

theorem mentions_iff :
    (TypeUse.lastIndexOf? (Piece.slot s).chars code).isSome = true ↔
      (Piece.slot s).chars <:+: code := by
  rw [Option.isSome_iff_ne_none, ne_eq, TypeUse.lastIndexOf?_eq_none_iff, not_not]

theorem expand_askedValue (w : ArgumentWriter) (f : Callable) (code : List Char) :
    GlueCode.expand (askedValue w f code) code = GlueCode.expand (f.slotValue (w.texts f)) code := by
  rw [GlueCode.expand, GlueCode.expand]
  refine List.flatMap_congr fun p hp => ?_
  cases p with
  | plain c => rfl
  | slot s =>
    have hvalue : askedValue w f code s = f.slotValue (w.texts f) s := by
      rw [askedValue]
      split
      · next hs =>
        have hnamed : s ∈ Slot.named := by
          rcases hs with rfl | rfl
          · decide
          · decide
        rw [if_pos (mentions_iff.2 ((slot_mem_pieces_iff hnamed).1 hp))]
      · rfl
    rw [Piece.fill, hvalue, Piece.fill]

theorem canExpand_iff {code : String} :
    f.canExpand code = true ↔ hasTypeText {} f.owner f.result = true ∧
      (.slot .arguments ∈ pieces code.toList →
        f.isDeclarable ArgumentWriter.declarationOptions = true) := by
  have hnamed : Slot.arguments ∈ Slot.named := by decide
  rw [canExpand, Bool.and_eq_true, Bool.or_eq_true, slot_mem_pieces_iff hnamed, ← mentions_iff,
    ← Option.not_isSome, Bool.not_eq_true', ← Bool.not_eq_true]
  exact and_congr_right fun _ => (imp_iff_not_or).symm

end Callable

/-- No type is unknown: neither the entry, nor a template argument, nor an element of an array, nor
a template parameter, at any depth. -/
inductive TypeUse.AllKnown : TypeUse → Prop where
  | intro {t : TypeUse} (entry : t.entry.isKnown = true)
      (arguments : ∀ u ∈ t.arguments, AllKnown u)
      (element : ∀ u, t.element = some u → AllKnown u)
      (parameter : ∀ u, t.parameter = some u → AllKnown u) : AllKnown t

namespace TypeUse

theorem isSpellableAll_iff {ts : List TypeUse} :
    isSpellableAll ts = true ↔ ∀ u ∈ ts, u.isSpellable = true := by
  induction ts with
  | nil => simp [isSpellableAll]
  | cons t ts ih => rw [isSpellableAll, Bool.and_eq_true, ih, List.forall_mem_cons]

theorem AllKnown.isSpellable {t : TypeUse} (h : t.AllKnown) : t.isSpellable = true := by
  induction h with
  | @intro t entry _ _ _ ih _ _ =>
    obtain ⟨e, n, r, c, el, np, vp, as, p, d⟩ := t
    rw [TypeUse.isSpellable, Bool.and_eq_true, isSpellableAll_iff]
    exact ⟨entry, ih⟩

theorem AllKnown.hasText {t : TypeUse} (h : t.AllKnown) (o : TextOptions) (generic : Bool) :
    t.hasTextAsIs o generic = true ∧ t.hasTextIn o generic = true := by
  induction h with
  | @intro t entry arguments element parameter _ ihelement ihparameter =>
    have hspell : t.isSpellable = true :=
      AllKnown.isSpellable (.intro entry arguments element parameter)
    have hasIs : t.hasTextAsIs o generic = true := by
      cases helement : t.element with
      | none =>
        rw [hasTextAsIs_leaf helement, leafHasText, hspell, Bool.or_true]
      | some u =>
        obtain ⟨e, n, r, c, el, np, vp, as, p, d⟩ := t
        obtain rfl : el = some u := helement
        rw [hasTextAsIs, hasTextAround]
        exact (ihelement u rfl).2
    refine ⟨hasIs, ?_⟩
    rw [hasTextIn_eq, shownIn]
    split
    · cases hparameter : t.parameter with
      | none => exact hasIs
      | some q => exact (ihparameter q hparameter).1
    · exact hasIs

end TypeUse

namespace Callable

variable {w : ArgumentWriter} {f : Callable}

structure AllKnown (f : Callable) : Prop where
  result : ∀ t, f.result = some t → t.AllKnown
  arguments : ∀ a ∈ f.arguments, a.type.AllKnown

theorem AllKnown.canExpand (h : f.AllKnown) (code : String) : f.canExpand code = true := by
  rw [canExpand_iff]
  constructor
  · cases hresult : f.result with
    | none => rfl
    | some t => exact ((h.result t hresult).hasText {} _).2
  · intro _
    rw [isDeclarable, List.all_eq_true]
    intro a ha
    have hknown := h.arguments a (List.mem_of_mem_filter ha)
    rw [Argument.isDeclarable, Argument.type?]
    split
    · exact (hknown.hasText _ _).2
    · rfl

end Callable

/-- A snippet splits into its pieces in one way only, and filling it puts what the pieces give way to
in a row; only the pieces of the snippet itself count, so what was put in is left alone. It makes no
difference that the texts of the arguments are made only where the snippet mentions them. When all
types of the function are known, any snippet can be filled. What stands in front of a percent sign
is filled apart from what follows. -/
theorem filled_in_one_pass (w : ArgumentWriter) (f : Callable) (code : String) :
    (∃ ps, (∀ qs, SplitsInto qs code.toList ↔ qs = ps) ∧
        ps.flatMap Piece.chars = code.toList ∧
        ∃ texts, (∀ others, List.Forall₂ (f.Fills w) ps others ↔ others = texts) ∧
          (w.expand f code).toList = texts.flatten) ∧
      expand (f.askedValue w code.toList) code.toList = (w.expand f code).toList ∧
      (f.AllKnown → f.canExpand code = true) ∧
      ∀ a b : String, w.expand f (a ++ "%" ++ b) = w.expand f a ++ w.expand f ("%" ++ b) ∧
        f.canExpand (a ++ "%" ++ b) = (f.canExpand a && f.canExpand ("%" ++ b)) := by
  have hexpand : ∀ x : String, (w.expand f x).toList =
      expand (f.slotValue (w.texts f)) x.toList := by
    intro x
    rw [ArgumentWriter.expand, Callable.expand, String.toList_ofList]
  refine ⟨⟨pieces code.toList, fun qs => splitsInto_iff, (splitsInto_pieces _).chars, _,
    fun others => Callable.fillsAll_iff, ?_⟩, ?_, fun h => h.canExpand code, fun a b => ⟨?_, ?_⟩⟩
  · rw [hexpand, expand, List.flatMap_def]
  · rw [hexpand, Callable.expand_askedValue]
  · apply String.toList_inj.1
    rw [String.toList_append, hexpand, hexpand, hexpand]
    have hcode : (a ++ "%" ++ b).toList = a.toList ++ '%' :: b.toList := by simp
    have hback : ("%" ++ b).toList = '%' :: b.toList := by simp
    rw [hcode, hback, expand, pieces_append_percent, List.flatMap_append]
    rfl
  · have hcode : (a ++ "%" ++ b).toList = a.toList ++ '%' :: b.toList := by simp
    have hback : ("%" ++ b).toList = '%' :: b.toList := by simp
    rw [Bool.eq_iff_iff, Bool.and_eq_true, Callable.canExpand_iff, Callable.canExpand_iff,
      Callable.canExpand_iff, hcode, hback, pieces_append_percent, List.mem_append]
    constructor
    · rintro ⟨hresult, harguments⟩
      exact ⟨⟨hresult, fun h => harguments (.inl h)⟩, hresult, fun h => harguments (.inr h)⟩
    · rintro ⟨⟨hresult, hfront⟩, -, hback⟩
      exact ⟨hresult, fun h => h.elim hfront hback⟩

def plainInt : TypeUse := { entry := { handle := 1, kind := .builtin, name := "int" } }

def nibClass : ClassHead :=
  { handle := 3, name := "%TYPE", entry := { handle := 3, kind := .object, name := "Nib" } }

def nibMethod : Callable where
  handle := 2
  name := "dip"
  wrappedName := "%1"
  result := some { plainInt with constant := true }
  owner := some nibClass
  arguments := [{ name := "%2", type := plainInt }, { name := "deep", type := plainInt, index := 1 },
    { name := "late", type := plainInt, removed := true }]

def nibCode : String := "%TYPE: %RETURN_TYPE %FUNCTION_NAME(%ARGUMENT_NAMES) %1 %10 %01 %%2 %\u0661"

theorem nib_code_filled :
    nibMethod.AllKnown ∧ nibMethod.canExpand nibCode = true ∧
      ArgumentWriter.expand {} nibMethod nibCode =
        "%TYPE: const int %1(%2, deep) late %10 %01 %deep %\u0661" := by
  have hplain : plainInt.AllKnown := .intro rfl (by simp [plainInt]) (by simp [plainInt])
    (by simp [plainInt])
  have hconst : TypeUse.AllKnown { plainInt with constant := true } :=
    .intro rfl (by simp [plainInt]) (by simp [plainInt]) (by simp [plainInt])
  have hknown : nibMethod.AllKnown := by
    constructor
    · rintro t ht
      obtain rfl := Option.some.inj ht
      exact hconst
    · simp [nibMethod, hplain]
  obtain ⟨-, -, hcan, -⟩ := filled_in_one_pass {} nibMethod nibCode
  exact ⟨hknown, hcan hknown, by decide +kernel⟩

end GlueCode
