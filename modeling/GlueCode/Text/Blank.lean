/-! # Blank characters

A character is blank when it separates words in one of the scripts, or is one of the four
separators among the control characters. The zero-width space and the byte order mark are not
blank. `trim` and its halves remove blanks from the ends of a text and nothing else.
-/
namespace GlueCode.Text

def blankCodes : List Nat :=
  [0x09, 0x0A, 0x0B, 0x0C, 0x0D, 0x1C, 0x1D, 0x1E, 0x1F, 0x20, 0x85, 0xA0, 0x1680,
    0x2000, 0x2001, 0x2002, 0x2003, 0x2004, 0x2005, 0x2006, 0x2007, 0x2008, 0x2009, 0x200A,
    0x2028, 0x2029, 0x202F, 0x205F, 0x3000]

def isBlank (c : Char) : Bool := blankCodes.contains c.toNat

def isBlankLine (cs : List Char) : Bool := cs.all isBlank

def trimStart (cs : List Char) : List Char := cs.dropWhile isBlank

/-- Removes the blanks at the end: a character stays when it is not blank, or when something after
it stays. -/
def trimEnd : List Char → List Char
  | [] => []
  | c :: cs =>
    let rest := trimEnd cs
    if isBlank c && rest.isEmpty then [] else c :: rest

def trim (cs : List Char) : List Char := trimEnd (trimStart cs)

theorem isBlank_of_isWhitespace {c : Char} (h : c.isWhitespace = true) : isBlank c = true := by
  simp only [Char.isWhitespace, Bool.or_eq_true, decide_eq_true_eq] at h
  rcases h with ((h | h) | h) | h <;> subst h <;> decide

theorem trimEnd_append_blanks (cs : List Char) :
    ∃ blanks, trimEnd cs ++ blanks = cs ∧ isBlankLine blanks = true := by
  induction cs with
  | nil => exact ⟨[], rfl, rfl⟩
  | cons c cs ih =>
    obtain ⟨blanks, hcs, hb⟩ := ih
    by_cases h : (isBlank c && (trimEnd cs).isEmpty) = true
    · refine ⟨c :: cs, by simp [trimEnd, h], ?_⟩
      simp only [Bool.and_eq_true, List.isEmpty_iff] at h
      simp_all [isBlankLine]
    · exact ⟨blanks, by simp [trimEnd, h, hcs], hb⟩

theorem trimEnd_eq_nil_iff {cs : List Char} : trimEnd cs = [] ↔ isBlankLine cs = true := by
  induction cs with
  | nil => simp [trimEnd, isBlankLine]
  | cons c cs ih => simp_all [trimEnd, isBlankLine]

theorem trimEnd_append_cons {last : Char} (h : isBlank last = false) (front rest : List Char) :
    trimEnd (front ++ last :: rest) = front ++ last :: trimEnd rest := by
  induction front with
  | nil => simp [trimEnd, h]
  | cons c front ih =>
    rw [List.cons_append, trimEnd, ih]
    simp

theorem trimEnd_trimEnd (cs : List Char) : trimEnd (trimEnd cs) = trimEnd cs := by
  induction cs with
  | nil => rfl
  | cons c cs ih =>
    rw [trimEnd]
    split
    · rfl
    · next h => rw [trimEnd, ih, if_neg h]

theorem trim_of_blank {cs : List Char} (h : isBlankLine cs = true) : trim cs = [] := by
  induction cs with
  | nil => rfl
  | cons c cs ih =>
    simp only [isBlankLine, List.all_cons, Bool.and_eq_true] at h
    rw [trim, trimStart, List.dropWhile_cons_of_pos h.1]
    exact ih h.2

theorem trim_cons_of_blank {c : Char} (h : isBlank c = true) (cs : List Char) :
    trim (c :: cs) = trim cs := by
  simp [trim, trimStart, h]

theorem trim_cons_of_filled {c : Char} (h : isBlank c = false) (cs : List Char) :
    trim (c :: cs) = c :: trimEnd cs := by
  simp [trim, trimStart, trimEnd, h]

theorem trim_append_of_blank {blanks : List Char} (h : isBlankLine blanks = true)
    (cs : List Char) : trim (blanks ++ cs) = trim cs := by
  induction blanks with
  | nil => rfl
  | cons c blanks ih =>
    simp only [isBlankLine, List.all_cons, Bool.and_eq_true] at h
    rw [List.cons_append, trim_cons_of_blank h.1]
    exact ih h.2

theorem exists_trim_eq_cons {cs : List Char} (h : isBlankLine cs = false) :
    ∃ c rest, isBlank c = false ∧ trim cs = c :: trimEnd rest := by
  induction cs with
  | nil => cases h
  | cons c cs ih =>
    cases hc : isBlank c with
    | false => exact ⟨c, cs, hc, trim_cons_of_filled hc cs⟩
    | true =>
      rw [trim_cons_of_blank hc]
      exact ih (by simpa [isBlankLine, hc] using h)

theorem trimEnd_eq {cs : List Char} (h : isBlankLine cs = false) :
    trimEnd cs = cs.takeWhile isBlank ++ trim cs := by
  induction cs with
  | nil => cases h
  | cons c cs ih =>
    cases hc : isBlank c with
    | false => simp [trim_cons_of_filled hc, trimEnd, hc]
    | true =>
      have hcs : isBlankLine cs = false := by simpa [isBlankLine, hc] using h
      have hsome : trimEnd cs ≠ [] := by simp [trimEnd_eq_nil_iff, hcs]
      rw [trim_cons_of_blank hc, List.takeWhile_cons_of_pos hc, List.cons_append, ← ih hcs]
      simp [trimEnd, hsome]

theorem trim_eq_self {cs : List Char} (hfirst : ∀ c ∈ cs.head?, isBlank c = false)
    (hlast : ∀ c ∈ cs.getLast?, isBlank c = false) : trim cs = cs := by
  cases cs with
  | nil => rfl
  | cons c cs =>
    have hstart : trimStart (c :: cs) = c :: cs :=
      List.dropWhile_cons_of_neg (by simp [hfirst c rfl])
    obtain ⟨front, last, hsplit⟩ := (c :: cs).eq_nil_or_concat.resolve_left (List.cons_ne_nil c cs)
    rw [List.concat_eq_append] at hsplit
    rw [hsplit, List.getLast?_concat] at hlast
    rw [trim, hstart, hsplit, trimEnd_append_cons (hlast last rfl)]
    rfl

end GlueCode.Text
