import GlueCode.Text.Blank
import GlueCode.Text.Lines
/-! # Reindentation

A snippet of code keeps its inner layout when it moves. The leading blanks of its first line that
is not blank give a width; every line that is not blank loses that many leading blanks, or all it
has when these are fewer, and its trailing blanks, and gets the new indentation. A blank line
comes out empty, and the number of lines does not change.
-/
namespace GlueCode.Text

def margin (line : List Char) : Nat := (line.takeWhile isBlank).length

/-- The margin of the first line that is not blank; zero when there is none. -/
def commonMargin (ls : List (List Char)) : Nat :=
  match ls.find? (!isBlankLine ·) with
  | some line => margin line
  | none => 0

def dropMargin : Nat → List Char → List Char
  | width + 1, c :: cs => if isBlank c then dropMargin width cs else c :: cs
  | _, cs => cs

def reindentLine (width : Nat) (indent line : List Char) : List Char :=
  if isBlankLine line then [] else indent ++ dropMargin width (trimEnd line)

def reindent (indent code : List Char) : List (List Char) :=
  let ls := lines code
  ls.map (reindentLine (commonMargin ls) indent)

def reindentText (indent code : List Char) : List Char := unlines (reindent indent code)

def reindentLines (indent code : List Char) : List Char :=
  (reindent indent code).flatMap (· ++ ['\n'])

def commentOut (style code : List Char) : List Char :=
  unlines ((lines code).map fun line => if isBlankLine line then line else style ++ ' ' :: line)

theorem margin_cons_of_filled {c : Char} (h : isBlank c = false) (cs : List Char) :
    margin (c :: cs) = 0 := by
  simp [margin, h]

theorem commonMargin_cons_of_blank {line : List Char} (h : isBlankLine line = true)
    (ls : List (List Char)) : commonMargin (line :: ls) = commonMargin ls := by
  simp [commonMargin, h]

theorem commonMargin_cons_of_filled {line : List Char} (h : isBlankLine line = false)
    (ls : List (List Char)) : commonMargin (line :: ls) = margin line := by
  simp [commonMargin, h]

theorem dropMargin_eq_drop (width : Nat) (line : List Char) :
    dropMargin width line = line.drop (min width (margin line)) := by
  induction line generalizing width with
  | nil => cases width <;> simp [dropMargin]
  | cons c cs ih =>
    cases width with
    | zero => simp [dropMargin]
    | succ width =>
      by_cases h : isBlank c = true
      · simp [dropMargin, margin, h, ih, Nat.add_min_add_right]
      · simp [dropMargin, margin, h]

theorem length_reindent (indent code : List Char) :
    (reindent indent code).length = (lines code).length := by
  simp [reindent]

end GlueCode.Text
