import GlueCode.Text.Reindent
/-! # Reindented code

A line that is not blank is its margin, its body, and the blanks behind them. Reindenting takes the
blanks at the end and some of the margin away and puts the indentation in front, so the body stays,
and margins that are wide enough all lose the same. How much of a margin goes is counted with a look
at one character after the other. The body stops the count, so no look goes behind the end of the
line. -/
namespace GlueCode.Text

variable {line indent code : List Char} {ls : List (List Char)} {width : Nat}

theorem isBlankLine_append (a b : List Char) :
    isBlankLine (a ++ b) = (isBlankLine a && isBlankLine b) := List.all_append

theorem isBlankLine_drop {cs : List Char} (h : isBlankLine cs = true) (n : Nat) :
    isBlankLine (cs.drop n) = true := by
  rw [isBlankLine, List.all_eq_true]
  intro c hc
  exact List.all_eq_true.1 h c (List.mem_of_mem_drop hc)

theorem isBlankLine_margin (line : List Char) : isBlankLine (line.takeWhile isBlank) = true :=
  List.all_takeWhile

theorem margin_append_of_blank {blanks : List Char} (h : isBlankLine blanks = true)
    (rest : List Char) : margin (blanks ++ rest) = blanks.length + margin rest := by
  rw [margin, List.takeWhile_append_of_pos (List.all_eq_true.1 h), List.length_append, margin]

theorem margin_trim (h : isBlankLine line = false) : margin (trim line) = 0 := by
  obtain ⟨c, rest, hc, htrim⟩ := exists_trim_eq_cons h
  rw [htrim, margin_cons_of_filled hc]

theorem margin_trimEnd (h : isBlankLine line = false) : margin (trimEnd line) = margin line := by
  rw [trimEnd_eq h, margin_append_of_blank (isBlankLine_margin line), margin_trim h]
  rfl

def kept (width : Nat) (line : List Char) : List Char :=
  (trimEnd line).drop (min width (margin line))

theorem kept_eq (h : isBlankLine line = false) :
    kept width line = (line.takeWhile isBlank).drop width ++ trim line := by
  have hleft : ∀ lead : List Char, lead.drop (min width lead.length) = lead.drop width := by
    intro lead
    rcases Nat.le_total width lead.length with hle | hle
    · rw [Nat.min_eq_left hle]
    · rw [Nat.min_eq_right hle, List.drop_length, List.drop_eq_nil_of_le hle]
  rw [kept, trimEnd_eq h, margin, List.drop_append_of_le_length (Nat.min_le_right _ _), hleft]

theorem reindentLine_of_blank (h : isBlankLine line = true) :
    reindentLine width indent line = [] := by
  rw [reindentLine, if_pos h]

theorem reindentLine_of_filled (h : isBlankLine line = false) :
    reindentLine width indent line = indent ++ kept width line := by
  rw [reindentLine, if_neg (by simp [h]), dropMargin_eq_drop, margin_trimEnd h, kept]

/-- How many blanks go, counted on from `limit` with a look at one character after the other. There
is no count when a look goes behind the end. -/
def countBlanks? (width : Nat) (cs : List Char) (limit : Nat) : Option Nat :=
  if limit < width then
    match cs[limit]? with
    | none => none
    | some c => if isBlank c then countBlanks? width cs (limit + 1) else some limit
  else some limit
termination_by width - limit

/-- The column of the first character that is not blank, in the first line that trimming does not
empty. -/
def firstColumn (ls : List (List Char)) : Nat :=
  match ls.find? fun line => !(trim line).isEmpty with
  | some line => (line.findIdx? fun c => !isBlank c).getD 0
  | none => 0

def reindentLine? (width : Nat) (indent line : List Char) : Option (List Char) :=
  if (trim line).isEmpty then some []
  else do
    let count ← countBlanks? width (trimEnd line) 0
    return indent ++ (trimEnd line).drop count

def reindentCounted? (indent code : List Char) : Option (List (List Char)) :=
  (lines code).mapM (reindentLine? (firstColumn (lines code)) indent)

theorem countBlanks?_eq {lead rest : List Char} {c : Char} (hlead : isBlankLine lead = true)
    (hc : isBlank c = false) {limit : Nat} (hlimit : limit ≤ lead.length) :
    countBlanks? width (lead ++ c :: rest) limit = some (max limit (min width lead.length)) := by
  have hstop : (lead ++ c :: rest)[lead.length]? = some c := by simp
  fun_induction countBlanks? width (lead ++ c :: rest) limit with
  | case1 limit hwidth hnone =>
    rw [List.getElem?_eq_none_iff, List.length_append, List.length_cons] at hnone
    omega
  | case2 limit hwidth d hd hblank ih =>
    -- what was looked at is blank, so the body is still ahead and the bound is kept
    have hne : limit ≠ lead.length := by
      intro heq
      rw [heq, hstop] at hd
      obtain rfl := Option.some.inj hd
      rw [hc] at hblank
      cases hblank
    rw [ih (by omega)]
    congr 1
    omega
  | case3 limit hwidth d hd hfilled =>
    have hnot : ¬limit < lead.length := by
      intro hlt
      rw [List.getElem?_append_left hlt] at hd
      exact hfilled (List.all_eq_true.1 hlead d (List.mem_of_getElem? hd))
    congr 1
    omega
  | case4 limit hwidth =>
    congr 1
    omega

theorem isEmpty_trim (line : List Char) : (trim line).isEmpty = isBlankLine line := by
  cases h : isBlankLine line with
  | true =>
    rw [trim_of_blank h]
    rfl
  | false =>
    obtain ⟨c, rest, -, htrim⟩ := exists_trim_eq_cons h
    rw [htrim]
    rfl

theorem findIdx?_filled (h : isBlankLine line = false) :
    (line.findIdx? fun c => !isBlank c) = some (margin line) := by
  induction line with
  | nil => cases h
  | cons c cs ih =>
    by_cases hc : isBlank c = true
    · have hcs : isBlankLine cs = false := by simpa [isBlankLine, hc] using h
      simp [List.findIdx?_cons, margin, hc, ih hcs]
    · simp [List.findIdx?_cons, margin, hc]

theorem firstColumn_eq (ls : List (List Char)) : firstColumn ls = commonMargin ls := by
  simp only [firstColumn, commonMargin, isEmpty_trim]
  cases hfind : ls.find? (!isBlankLine ·) with
  | none => rfl
  | some line =>
    have hline : isBlankLine line = false := by simpa using List.find?_some hfind
    simp [findIdx?_filled hline]

theorem reindentLine?_eq (width : Nat) (indent line : List Char) :
    reindentLine? width indent line = some (reindentLine width indent line) := by
  rw [reindentLine?, isEmpty_trim]
  cases h : isBlankLine line with
  | true => rw [if_pos rfl, reindentLine_of_blank h]
  | false =>
    obtain ⟨c, rest, hc, htrim⟩ := exists_trim_eq_cons h
    have hcount : countBlanks? width (trimEnd line) 0 = some (min width (margin line)) := by
      rw [trimEnd_eq h, htrim, countBlanks?_eq (isBlankLine_margin line) hc (Nat.zero_le _),
        Nat.zero_max, margin]
    rw [if_neg Bool.false_ne_true, hcount, reindentLine_of_filled h]
    rfl

theorem reindentCounted?_eq (indent code : List Char) :
    reindentCounted? indent code = some (reindent indent code) := by
  have hall : reindentLine? (firstColumn (lines code)) indent =
      fun line => some (reindentLine (commonMargin (lines code)) indent line) := by
    funext line
    rw [reindentLine?_eq, firstColumn_eq]
  rw [reindentCounted?, hall, reindent]
  exact List.mapM_pure

def ink (cs : List Char) : List Char := cs.filter (!isBlank ·)

theorem ink_append (a b : List Char) : ink (a ++ b) = ink a ++ ink b := List.filter_append a b

theorem ink_of_blank {cs : List Char} (h : isBlankLine cs = true) : ink cs = [] := by
  rw [ink, List.filter_eq_nil_iff]
  intro c hc
  simp [List.all_eq_true.1 h c hc]

theorem ink_trimEnd (cs : List Char) : ink (trimEnd cs) = ink cs := by
  obtain ⟨blanks, hcs, hblanks⟩ := trimEnd_append_blanks cs
  calc ink (trimEnd cs) = ink (trimEnd cs ++ blanks) := by
        rw [ink_append, ink_of_blank hblanks, List.append_nil]
    _ = ink cs := by rw [hcs]

theorem ink_kept (width : Nat) (line : List Char) : ink (kept width line) = ink line := by
  cases h : isBlankLine line with
  | true =>
    rw [kept, trimEnd_eq_nil_iff.2 h, List.drop_nil, ink_of_blank h]
    rfl
  | false =>
    have hleft := isBlankLine_drop (isBlankLine_margin line) width
    calc ink (kept width line) = ink (trim line) := by
          rw [kept_eq h, ink_append, ink_of_blank hleft, List.nil_append]
      _ = ink (trimEnd line) := by
          rw [trimEnd_eq h, ink_append, ink_of_blank (isBlankLine_margin line), List.nil_append]
      _ = ink line := ink_trimEnd line

theorem margin_kept (h : isBlankLine line = false) :
    margin (kept width line) = margin line - width := by
  rw [kept_eq h, margin_append_of_blank (isBlankLine_drop (isBlankLine_margin line) width),
    margin_trim h, List.length_drop, margin, Nat.add_zero]

theorem ink_unlines (ls : List (List Char)) : ink (unlines ls) = ls.flatMap ink := by
  induction ls with
  | nil => rfl
  | cons line rest ih =>
    by_cases hrest : rest = []
    · simp [hrest, unlines, joinWith]
    · have hbreak : ink ['\n'] = [] := rfl
      rw [unlines, joinWith_cons hrest, ink_append, ink_append, hbreak, List.append_nil, ← unlines,
        ih, List.flatMap_cons]

theorem ink_reindent (code : List Char) : ink (unlines (reindent [] code)) = ink code := by
  have hline : ∀ line, ink (reindentLine (commonMargin (lines code)) [] line) = ink line := by
    intro line
    cases h : isBlankLine line with
    | true =>
      rw [reindentLine_of_blank h, ink_of_blank h]
      rfl
    | false => rw [reindentLine_of_filled h, List.nil_append, ink_kept]
  rw [ink_unlines, reindent, List.flatMap_map]
  simp only [hline]
  rw [← ink_unlines, unlines, lines, joinWith_splitAt]

def IsFirstFilled (ls : List (List Char)) (line : List Char) : Prop :=
  isBlankLine line = false ∧
    ∃ before after, ls = before ++ line :: after ∧ ∀ l ∈ before, isBlankLine l = true

theorem isFirstFilled_iff : IsFirstFilled ls line ↔ ls.find? (!isBlankLine ·) = some line := by
  simp [IsFirstFilled, List.find?_eq_some_iff_append]

theorem exists_isFirstFilled (hmem : line ∈ ls) (h : isBlankLine line = false) :
    ∃ first, IsFirstFilled ls first := by
  have hsome : (ls.find? (!isBlankLine ·)).isSome = true := by
    rw [List.find?_isSome]
    exact ⟨line, hmem, by simp [h]⟩
  obtain ⟨first, hfirst⟩ := Option.isSome_iff_exists.1 hsome
  exact ⟨first, isFirstFilled_iff.2 hfirst⟩

theorem commonMargin_eq (h : IsFirstFilled ls line) : commonMargin ls = margin line := by
  rw [commonMargin, isFirstFilled_iff.1 h]

/-- Reindenting keeps the code. All counts go through, and there are as many lines as before. A line
that is blank is empty then. Any other line, without the blanks at its end, loses as many leading
blanks as the first such line has, or all it has. So behind the indentation stands all that is not
blank, in its order, and two such lines that both have this margin differ in their margins by as much
as before. -/
theorem reindenting_keeps_code (indent code : List Char) :
    reindentCounted? indent code = some (reindent indent code) ∧
      (reindent indent code).length = (lines code).length ∧
      (∀ first, IsFirstFilled (lines code) first → commonMargin (lines code) = margin first) ∧
      (∀ (i : Nat) line, (lines code)[i]? = some line → (reindent indent code)[i]? = some
        (if isBlankLine line then [] else indent ++ kept (commonMargin (lines code)) line)) ∧
      (∀ width line, ink (kept width line) = ink line) ∧
      ink (unlines (reindent [] code)) = ink code ∧
      ∀ pad line other, isBlankLine pad = true → isBlankLine line = false →
        isBlankLine other = false → commonMargin (lines code) ≤ margin line →
        commonMargin (lines code) ≤ margin other →
        (margin (pad ++ kept (commonMargin (lines code)) line) : Int) -
            margin (pad ++ kept (commonMargin (lines code)) other) =
          margin line - margin other := by
  refine ⟨reindentCounted?_eq indent code, length_reindent indent code,
    fun first hfirst => commonMargin_eq hfirst, ?_, ink_kept, ink_reindent code, ?_⟩
  · intro i line hline
    rw [reindent, List.getElem?_map, hline, Option.map_some]
    cases h : isBlankLine line with
    | true => rw [reindentLine_of_blank h, if_pos rfl]
    | false => rw [reindentLine_of_filled h, if_neg Bool.false_ne_true]
  · intro pad line other hpad hline hother hwide hwide'
    rw [margin_append_of_blank hpad, margin_append_of_blank hpad, margin_kept hline,
      margin_kept hother]
    omega

def mixedCode : List Char := "\t if x:\r\n \n   \tgo  \n y".toList

theorem mixed_code_kept :
    reindentCounted? ['>', ' '] mixedCode =
        some ["> if x:".toList, [], ">  \tgo".toList, "> y".toList] ∧
      commonMargin (lines mixedCode) = 2 ∧ margin "   \tgo  ".toList = 4 ∧
      (margin ([' '] ++ kept 2 "   \tgo  ".toList) : Int) -
        margin ([' '] ++ kept 2 "\t if x:\r".toList) = 2 := by
  obtain ⟨hcounted, -, -, -, -, -, hmargins⟩ := reindenting_keeps_code ['>', ' '] mixedCode
  have hcommon : commonMargin (lines mixedCode) = 2 := by decide +kernel
  rw [hcounted]
  refine ⟨by decide +kernel, hcommon, by decide +kernel, ?_⟩
  have hsame := hmargins [' '] "   \tgo  ".toList "\t if x:\r".toList (by decide +kernel)
    (by decide +kernel) (by decide +kernel) (by decide +kernel) (by decide +kernel)
  rw [hcommon] at hsame
  rw [hsame]
  decide +kernel

end GlueCode.Text
