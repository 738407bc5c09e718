import GlueCode.Text.Composed.Compatible
import GlueCode.Text.Composed.Table
import GlueCode.Text.Digit
import GlueCode.Text.Lines
/-! # Compatible forms

Two identifiers may be different writings of the same one: a letter with an accent is one character
or two, and a letter may be written in another width or style. `compatibleForm` takes all of them to
one form. It replaces characters by their parts, brings the marks after each letter into the order
of their classes, and puts together again what makes up one character. Syllables of Hangul are
composed by rule, all others by table.
-/
namespace GlueCode.Text

/-- The parts that a row gives for one of its characters, as numbers. -/
def partsAt? (images : String) (index : Nat) : Option (List Nat) :=
  match (splitAt ' ' images.toList)[index]? with
  | some ['.'] => none
  | some image => some ((splitAt '+' image).map ofHex)
  | none => none

def maxRowLength : Nat := 64

def partsIn? (rows : List (Nat × String)) (code : Nat) : Option (List Nat) :=
  rows.findSome? fun (start, images) =>
    if start ≤ code && code < start + maxRowLength then partsAt? images (code - start) else none

/-- The characters of Hangul: syllables come in blocks of one for each leading consonant, and within
them in blocks for each vowel. -/
def firstSyllable : Nat := 0xAC00
def leadBase : Nat := 0x1100
def vowelBase : Nat := 0x1161
def tailBase : Nat := 0x11A7
def leadCount : Nat := 19
def vowelCount : Nat := 21
def tailCount : Nat := 28

def syllableParts? (code : Nat) : Option (List Nat) :=
  let index := code - firstSyllable
  if firstSyllable ≤ code && index < leadCount * vowelCount * tailCount then
    let tail := index % tailCount
    some ([leadBase + index / (vowelCount * tailCount),
      vowelBase + index / tailCount % vowelCount] ++ if tail = 0 then [] else [tailBase + tail])
  else none

def syllable? (a b : Nat) : Option Nat :=
  if leadBase ≤ a && a < leadBase + leadCount && vowelBase ≤ b && b < vowelBase + vowelCount then
    some (firstSyllable + ((a - leadBase) * vowelCount + (b - vowelBase)) * tailCount)
  else if firstSyllable ≤ a && a < firstSyllable + leadCount * vowelCount * tailCount
      && (a - firstSyllable) % tailCount = 0 && tailBase < b && b < tailBase + tailCount then
    some (a + (b - tailBase))
  else none

/-- The final parts of a character; `fuel` bounds how deep parts have parts. -/
def finalParts : Nat → Nat → List Nat
  | 0, code => [code]
  | fuel + 1, code =>
    match partsIn? compatibleRows code with
    | some parts => parts
    | none =>
      match partsIn? compositeRows code with
      | some parts => parts.flatMap (finalParts fuel)
      | none => (syllableParts? code).getD [code]

def markClass (code : Nat) : Nat :=
  ((markClasses.find? fun (first, last, _) => first ≤ code && code ≤ last).map (·.2.2)).getD 0

/-- Puts a mark behind the marks whose class is not greater, nearest to the front; anything that is
no mark stays in front. -/
def insertMark (code : Nat) : List Nat → List Nat
  | [] => [code]
  | other :: rest =>
    if markClass other ≠ 0 && markClass other < markClass code then other :: insertMark code rest
    else code :: other :: rest

def orderMarks : List Nat → List Nat
  | [] => []
  | code :: rest =>
    if markClass code = 0 then code :: orderMarks rest else insertMark code (orderMarks rest)

def composites : List (Nat × Nat × Nat) :=
  compositeRows.flatMap fun (start, images) =>
    ((splitAt ' ' images.toList).mapIdx fun i image =>
      match (splitAt '+' image).map ofHex with
      | [a, b] => [(a, b, start + i)]
      | _ => []).flatten

def composite? (a b : Nat) : Option Nat :=
  match syllable? a b with
  | some code => some code
  | none => (composites.find? fun (x, y, _) => x = a && y = b).map (·.2.2)

/-- Composes a character with what follows it. `kept` are the marks that stay between them, last one
first; a mark does not get past one of its own or a greater class. -/
def composeWith (letter : Nat) (kept : List Nat) : List Nat → List Nat
  | [] => letter :: kept.reverse
  | code :: rest =>
    let blocked := match kept with
      | [] => false
      | last :: _ => markClass code ≤ markClass last
    match if blocked then none else composite? letter code with
    | some composed => composeWith composed kept rest
    | none =>
      if markClass code = 0 then letter :: (kept.reverse ++ composeWith code [] rest)
      else composeWith letter (code :: kept) rest

def compatibleForm (cs : List Char) : List Char :=
  if cs.all (·.toNat < 0x80) then cs
  else
    match orderMarks (cs.flatMap fun c => finalParts 4 c.toNat) with
    | [] => []
    | code :: rest => (composeWith code [] rest).map Char.ofNat

example : syllableParts? 0xAC01 = some [0x1100, 0x1161, 0x11A8] := by decide
example : syllable? 0xAC00 0x11A8 = some 0xAC01 := by decide
example : partsAt? "41+300 . 43" 0 = some [0x41, 0x300] := by decide +kernel

end GlueCode.Text
