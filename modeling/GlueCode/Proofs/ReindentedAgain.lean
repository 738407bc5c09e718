import GlueCode.Proofs.ReindentedCode
import GlueCode.Proofs.Rendering
import Mathlib.Data.List.Forall2
/-! # Reindenting again

Code that was reindented is indented: the first line that is not blank has the indentation for its
margin, and every such line starts with the indentation and ends without a blank. Indented code stays
as it is under the same indentation. Nor does it matter how deep the code stood before. When every
line stands deeper by the same number of blanks, whatever these are, then so does the first one that
is not blank, and the common margin takes them away again. -/
namespace GlueCode.Text

variable {line indent code : List Char} {ls deeper : List (List Char)} {width k : Nat}

theorem lines_unlines (hne : ls ≠ []) (h : ∀ l ∈ ls, '\n' ∉ l) : lines (unlines ls) = ls := by
  have hsingle : ∀ l ∈ ls, splitAt '\n' l = [l] := fun l hl => splitAt_of_not_mem (h l hl)
  rw [lines, unlines, splitAt_joinWith hne, List.flatMap_congr hsingle, List.flatMap_singleton']

theorem lines_ne_nil (code : List Char) : lines code ≠ [] := splitAt_ne_nil '\n' code

theorem kept_append_of_blank {blanks : List Char} (h : isBlankLine blanks = true)
    (hline : isBlankLine line = false) :
    kept (blanks.length + width) (blanks ++ line) = kept width line := by
  have hfilled : isBlankLine (blanks ++ line) = false := by
    rw [isBlankLine_append, hline, Bool.and_false]
  rw [kept_eq hfilled, kept_eq hline, trim_append_of_blank h,
    List.takeWhile_append_of_pos (List.all_eq_true.1 h), List.drop_length_add_append]

def StandsDeeper (k : Nat) (line deep : List Char) : Prop :=
  ∃ blanks, blanks.length = k ∧ isBlankLine blanks = true ∧ deep = blanks ++ line

theorem StandsDeeper.isBlankLine_eq {deep : List Char} (h : StandsDeeper k line deep) :
    isBlankLine deep = isBlankLine line := by
  obtain ⟨blanks, -, hblanks, rfl⟩ := h
  rw [isBlankLine_append, hblanks, Bool.true_and]

theorem StandsDeeper.reindentLine_eq {deep : List Char} (h : StandsDeeper k line deep) :
    reindentLine (k + width) indent deep = reindentLine width indent line := by
  cases hline : isBlankLine line with
  | true => rw [reindentLine_of_blank hline, reindentLine_of_blank (h.isBlankLine_eq.trans hline)]
  | false =>
    rw [reindentLine_of_filled hline, reindentLine_of_filled (h.isBlankLine_eq.trans hline)]
    obtain ⟨blanks, rfl, hblanks, rfl⟩ := h
    rw [kept_append_of_blank hblanks hline]

theorem commonMargin_deeper (h : List.Forall₂ (StandsDeeper k) ls deeper)
    (hsome : ∃ l ∈ ls, isBlankLine l = false) : commonMargin deeper = k + commonMargin ls := by
  induction h with
  | nil => simp at hsome
  | @cons line deep rest deepRest hline _ ih =>
    have hsame := hline.isBlankLine_eq
    cases hblank : isBlankLine line with
    | true =>
      have hrest : ∃ l ∈ rest, isBlankLine l = false := by simpa [hblank] using hsome
      rw [commonMargin_cons_of_blank hblank, commonMargin_cons_of_blank (hsame.trans hblank),
        ih hrest]
    | false =>
      rw [commonMargin_cons_of_filled hblank, commonMargin_cons_of_filled (hsame.trans hblank)]
      obtain ⟨blanks, rfl, hblanks, rfl⟩ := hline
      exact margin_append_of_blank hblanks line

/-- The margins matter only for a line that is not blank, and if there is one they differ by `k`. -/
theorem map_reindentLine_deeper (h : List.Forall₂ (StandsDeeper k) ls deeper) :
    deeper.map (reindentLine (commonMargin deeper) indent) =
      ls.map (reindentLine (commonMargin ls) indent) := by
  have hline : ∀ i (hi : i < ls.length) (hi' : i < deeper.length),
      reindentLine (commonMargin deeper) indent deeper[i] =
        reindentLine (commonMargin ls) indent ls[i] := by
    intro i hi hi'
    have hpair : StandsDeeper k ls[i] deeper[i] := h.get hi hi'
    cases hblank : isBlankLine ls[i] with
    | true =>
      rw [reindentLine_of_blank hblank, reindentLine_of_blank (hpair.isBlankLine_eq.trans hblank)]
    | false =>
      rw [commonMargin_deeper h ⟨_, List.getElem_mem hi, hblank⟩, hpair.reindentLine_eq]
  apply List.ext_getElem (by rw [List.length_map, List.length_map, h.length_eq])
  intro i hi hi'
  rw [List.getElem_map, List.getElem_map]
  exact hline i (by simpa using hi') (by simpa using hi)

def IsIndentedLine (indent line : List Char) : Prop :=
  line = [] ∨ ∃ rest, line = indent ++ rest ∧ isBlankLine rest = false ∧ trimEnd rest = rest

structure IsIndented (indent : List Char) (ls : List (List Char)) : Prop where
  line : ∀ l ∈ ls, IsIndentedLine indent l
  first : ∀ l, IsFirstFilled ls l → margin l = indent.length

theorem IsIndentedLine.reindentLine_eq (hindent : isBlankLine indent = true)
    (h : IsIndentedLine indent line) : reindentLine indent.length indent line = line := by
  rcases h with rfl | ⟨rest, rfl, hrest, htrim⟩
  · rfl
  · have hfilled : isBlankLine (indent ++ rest) = false := by
      rw [isBlankLine_append, hrest, Bool.and_false]
    have hkept : kept (indent.length + 0) (indent ++ rest) = kept 0 rest :=
      kept_append_of_blank hindent hrest
    rw [reindentLine_of_filled hfilled, ← Nat.add_zero indent.length, hkept, kept, htrim,
      Nat.zero_min, List.drop_zero]

theorem IsIndented.reindentLine_eq (hindent : isBlankLine indent = true) (h : IsIndented indent ls) :
    ls.map (reindentLine (commonMargin ls) indent) = ls := by
  have hsame : ∀ l ∈ ls, reindentLine (commonMargin ls) indent l = l := by
    intro l hl
    cases hblank : isBlankLine l with
    | true =>
      rcases h.line l hl with rfl | ⟨rest, rfl, hrest, -⟩
      · rfl
      · rw [isBlankLine_append, hrest, Bool.and_false] at hblank
        cases hblank
    | false =>
      obtain ⟨first, hfirst⟩ := exists_isFirstFilled hl hblank
      rw [commonMargin_eq hfirst, h.first first hfirst]
      exact (h.line l hl).reindentLine_eq hindent
  rw [List.map_congr_left hsame, List.map_id']

theorem isBlankLine_kept (h : isBlankLine line = false) : isBlankLine (kept width line) = false := by
  obtain ⟨c, rest, hc, htrim⟩ := exists_trim_eq_cons h
  rw [kept_eq h, isBlankLine_append, htrim]
  simp [isBlankLine, hc]

theorem trimEnd_kept (h : isBlankLine line = false) : trimEnd (kept width line) = kept width line := by
  obtain ⟨c, rest, hc, htrim⟩ := exists_trim_eq_cons h
  rw [kept_eq h, htrim, trimEnd_append_cons hc, trimEnd_trimEnd]

theorem isIndentedLine_reindentLine (width : Nat) (indent line : List Char) :
    IsIndentedLine indent (reindentLine width indent line) := by
  cases h : isBlankLine line with
  | true => exact .inl (reindentLine_of_blank h)
  | false =>
    exact .inr ⟨kept width line, reindentLine_of_filled h, isBlankLine_kept h, trimEnd_kept h⟩

theorem isBlankLine_reindentLine (width : Nat) (indent line : List Char) :
    isBlankLine (reindentLine width indent line) = isBlankLine line := by
  cases h : isBlankLine line with
  | true =>
    rw [reindentLine_of_blank h]
    rfl
  | false => rw [reindentLine_of_filled h, isBlankLine_append, isBlankLine_kept h, Bool.and_false]

theorem isIndented_reindent (hindent : isBlankLine indent = true) (code : List Char) :
    IsIndented indent (reindent indent code) where
  line := by
    intro l hl
    obtain ⟨line, -, rfl⟩ := List.mem_map.1 hl
    exact isIndentedLine_reindentLine _ indent line
  first := by
    intro l hl
    have hsame : ((!isBlankLine ·) ∘ reindentLine (commonMargin (lines code)) indent) =
        (!isBlankLine ·) := by
      funext line
      rw [Function.comp_apply, isBlankLine_reindentLine]
    rw [isFirstFilled_iff, reindent, List.find?_map, hsame, Option.map_eq_some_iff] at hl
    obtain ⟨first, hfirst, rfl⟩ := hl
    have hfilled := isFirstFilled_iff.2 hfirst
    rw [commonMargin_eq hfilled, reindentLine_of_filled hfilled.1, margin_append_of_blank hindent,
      margin_kept hfilled.1, Nat.sub_self, Nat.add_zero]

theorem not_mem_reindent (hbreak : '\n' ∉ indent) {l : List Char} (hl : l ∈ reindent indent code) :
    '\n' ∉ l := by
  obtain ⟨line, hline, rfl⟩ := List.mem_map.1 hl
  cases h : isBlankLine line with
  | true => simp [reindentLine_of_blank h]
  | false =>
    rw [reindentLine_of_filled h, List.mem_append, not_or]
    refine ⟨hbreak, fun hmem => not_mem_of_mem_splitAt hline ?_⟩
    obtain ⟨blanks, hsplit, -⟩ := trimEnd_append_blanks line
    rw [← hsplit]
    exact List.mem_append_left _ (List.mem_of_mem_drop hmem)

theorem lines_reindent (hbreak : '\n' ∉ indent) (code : List Char) :
    lines (unlines (reindent indent code)) = reindent indent code := by
  refine lines_unlines ?_ fun l hl => not_mem_reindent hbreak hl
  rw [reindent, ne_eq, List.map_eq_nil_iff]
  exact lines_ne_nil code

theorem reindent_reindent (hindent : isBlankLine indent = true) (hbreak : '\n' ∉ indent)
    (code : List Char) : reindent indent (unlines (reindent indent code)) = reindent indent code := by
  rw [reindent, lines_reindent hbreak]
  exact (isIndented_reindent hindent code).reindentLine_eq hindent

theorem reindentText_reindentText (hindent : isBlankLine indent = true) (hbreak : '\n' ∉ indent)
    (code : List Char) :
    reindentText indent (reindentText indent code) = reindentText indent code :=
  congrArg unlines (reindent_reindent hindent hbreak code)

theorem standsDeeper_zipWith {blanks : List (List Char)} (hlength : blanks.length = ls.length)
    (h : ∀ b ∈ blanks, b.length = k ∧ isBlankLine b = true) :
    List.Forall₂ (StandsDeeper k) ls (List.zipWith (· ++ ·) blanks ls) := by
  rw [List.forall₂_iff_get]
  refine ⟨by simp [hlength], fun i hi hi' => ?_⟩
  have hb : i < blanks.length := hlength ▸ hi
  obtain ⟨hwidth, hblank⟩ := h blanks[i] (List.getElem_mem hb)
  exact ⟨blanks[i], hwidth, hblank, by simp⟩

def indentEach (blanks : List (List Char)) (code : List Char) : List Char :=
  unlines (List.zipWith (· ++ ·) blanks (lines code))

theorem lines_indentEach {blanks : List (List Char)} (hlength : blanks.length = (lines code).length)
    (hbreak : ∀ b ∈ blanks, '\n' ∉ b) :
    lines (indentEach blanks code) = List.zipWith (· ++ ·) blanks (lines code) := by
  apply lines_unlines
  · intro hnil
    have hnone := congrArg List.length hnil
    rw [List.length_zipWith, hlength, Nat.min_self, List.length_nil] at hnone
    exact lines_ne_nil code (List.length_eq_zero_iff.1 hnone)
  · intro l hl
    obtain ⟨i, hi, rfl⟩ := List.mem_iff_getElem.1 hl
    rw [List.length_zipWith, Nat.lt_min] at hi
    rw [List.getElem_zipWith, List.mem_append, not_or]
    exact ⟨hbreak _ (List.getElem_mem hi.1), not_mem_of_mem_splitAt (List.getElem_mem hi.2)⟩

theorem reindent_indentEach {blanks : List (List Char)}
    (hlength : blanks.length = (lines code).length)
    (h : ∀ b ∈ blanks, b.length = k ∧ isBlankLine b = true ∧ '\n' ∉ b) :
    reindent indent (indentEach blanks code) = reindent indent code := by
  have hdeeper := standsDeeper_zipWith hlength fun b hb => ⟨(h b hb).1, (h b hb).2.1⟩
  rw [reindent, lines_indentEach hlength fun b hb => (h b hb).2.2]
  exact map_reindentLine_deeper hdeeper

end GlueCode.Text

namespace GlueCode

namespace Template

def indentWidth (args : List Value) (names : List String) : Except RenderError Nat := do
  match ← onlyArgument "spaces" args names with
  | some v => v.width
  | none => return defaultWidth

theorem apply_indent (loops : List Loop) (v : Value) (args : List Value) (names : List String) :
    Filter.apply .indent loops v args names = (indentWidth args names).map fun width =>
      .data (.str (String.ofList
        (Text.reindentText (List.replicate width ' ') (v.text loops)))) := by
  rw [Filter.apply, indentWidth]
  cases onlyArgument "spaces" args names with
  | error e => rfl
  | ok given =>
    cases given with
    | none => rfl
    | some w => cases hw : w.width <;> simp [hw, bind, Except.bind, pure, Except.pure, Except.map]

theorem isBlankLine_spaces (width : Nat) :
    Text.isBlankLine (List.replicate width ' ') = true ∧ '\n' ∉ List.replicate width ' ' := by
  constructor
  · rw [Text.isBlankLine, List.all_eq_true]
    intro c hc
    rw [List.eq_of_mem_replicate hc]
    decide
  · intro hc
    exact absurd (List.eq_of_mem_replicate hc) (by decide)

theorem apply_indent_again (loops : List Loop) (v : Value) (args : List Value)
    (names : List String) :
    (do Filter.apply .indent loops (← Filter.apply .indent loops v args names) args names) =
      Filter.apply .indent loops v args names := by
  simp only [apply_indent]
  cases indentWidth args names with
  | error e => rfl
  | ok width =>
    obtain ⟨hblank, hbreak⟩ := isBlankLine_spaces width
    have hagain := Text.reindentText_reindentText hblank hbreak (v.text loops)
    simp [bind, Except.bind, Except.map, hagain]

end Template

namespace Text

variable {indent : List Char}

/-- Reindenting gives a normal form. Under an indentation of blanks, code that was reindented stays as
it is, so the filter can be used twice with the same arguments, whatever these are; and it makes no
difference how many blanks every line had in front of it, nor which, when all had equally many. -/
theorem reindenting_normalises (hindent : isBlankLine indent = true) (hbreak : '\n' ∉ indent)
    (code : List Char) :
    reindent indent (unlines (reindent indent code)) = reindent indent code ∧
      (∀ (loops : List Template.Loop) (v : Template.Value) args names,
        (do Template.Filter.apply .indent loops
              (← Template.Filter.apply .indent loops v args names) args names) =
          Template.Filter.apply .indent loops v args names) ∧
      ∀ k blanks, blanks.length = (lines code).length →
        (∀ b ∈ blanks, b.length = k ∧ isBlankLine b = true ∧ '\n' ∉ b) →
        reindent indent (indentEach blanks code) = reindent indent code :=
  ⟨reindent_reindent hindent hbreak code, Template.apply_indent_again,
    fun _ _ hlength hblanks => reindent_indentEach hlength hblanks⟩

theorem mixed_code_normalised :
    isBlankLine ['\t'] = true ∧
      reindent ['\t'] (unlines (reindent ['\t'] mixedCode)) = reindent ['\t'] mixedCode ∧
      reindent ['\t'] (indentEach [[' '], ['\t'], ['\u00a0'], ['\u3000']] mixedCode) =
        ["\tif x:".toList, [], "\t \tgo".toList, "\ty".toList] := by
  have hblank : isBlankLine ['\t'] = true := by decide
  have hbreak : '\n' ∉ ['\t'] := by decide
  obtain ⟨hagain, -, hdeeper⟩ := reindenting_normalises hblank hbreak mixedCode
  have hsame := hdeeper 1 [[' '], ['\t'], ['\u00a0'], ['\u3000']] (by decide +kernel) (by decide)
  refine ⟨hblank, hagain, ?_⟩
  rw [hsame]
  decide +kernel

end Text

end GlueCode
