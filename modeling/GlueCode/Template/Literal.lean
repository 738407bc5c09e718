import GlueCode.Number.Binary64
import GlueCode.Text.CharName
import GlueCode.Text.Digit
import GlueCode.Text.Quoted
/-! # Literals

Texts and numbers as they are written in expressions. A backslash in a quoted text stands for
another character together with what follows it, unless that has no meaning; a character beyond
ASCII counts as its code, with a backslash of its own. Whole numbers are decimal, binary, octal or
hexadecimal, and single underscores may stand between digits. A decimal number does not start with
a zero that other digits follow.
-/
namespace GlueCode.Template

inductive SyntaxError where
  | malformed
  /-- An unknown filter, or a loop over the name of the loop counter. -/
  | refused
  /-- A number that is not whole, in digits of another script. -/
  | foreignDigits
  | integerTooLong
  | repeatedArgument
  | tooManyLoops
  | tooDeep
  /-- So many tags inside each other that they are not even read. -/
  | bottomless
deriving DecidableEq, Repr

/-- A text in ASCII, with the codes of all other characters. -/
def asciiForm (cs : List Char) : List Char :=
  cs.flatMap fun c => if c.toNat < 0x80 then [c] else Text.codeEscape c

def octalValue? (c : Char) : Option Nat :=
  if '0' ≤ c && c ≤ '7' then some (c.toNat - 0x30) else none

def codeOf? (count : Nat) (cs : List Char) : Option (Nat × List Char) :=
  let ds := (cs.take count).takeWhile fun c => (Text.hexValue? c).isSome
  let code := Text.ofHex ds
  if ds.length = count && code < 0x110000 then some (code, cs.drop count) else none

def namedCode? : List Char → Option (Nat × List Char)
  | '\x7b' :: cs => do
    let name := cs.takeWhile (· ≠ '\x7d')
    let c ← Text.charNamed? name
    if name.length = cs.length then none else some (c.toNat, cs.drop (name.length + 1))
  | _ => none

def octalCode (cs : List Char) : Nat × List Char :=
  let ds := (cs.take 3).takeWhile fun c => (octalValue? c).isSome
  (ds.foldl (fun n c => n * 8 + (octalValue? c).getD 0) 0, cs.drop ds.length)

def simpleEscape? : Char → Option Nat
  | '\\' => some 0x5C
  | '\'' => some 0x27
  | '"' => some 0x22
  | 'a' => some 0x07
  | 'b' => some 0x08
  | 'f' => some 0x0C
  | 'n' => some 0x0A
  | 'r' => some 0x0D
  | 't' => some 0x09
  | 'v' => some 0x0B
  | _ => none

/-- The codes of a text after the meaning of its backslashes; nothing when a code is cut off, too
great or has no character. -/
def codesAt : Nat → List Char → Option (List Nat)
  | 0, _ => some []
  | _, [] => some []
  | fuel + 1, '\\' :: '\n' :: rest => codesAt fuel rest
  | fuel + 1, '\\' :: c :: rest => do
    match simpleEscape? c with
    | some code => return code :: (← codesAt fuel rest)
    | none =>
      let (code, rest) ←
        if c = 'x' then codeOf? 2 rest
        else if c = 'u' then codeOf? 4 rest
        else if c = 'U' then codeOf? 8 rest
        else if c = 'N' then namedCode? rest
        else if (octalValue? c).isSome then some (octalCode (c :: rest))
        else some (0x5C, c :: rest)
      return code :: (← codesAt fuel rest)
  | fuel + 1, c :: rest => (codesAt fuel rest).map (c.toNat :: ·)

/-- The characters of codes. Two halves of a pair are one character, and half a pair becomes the
replacement character. -/
def charsOfCodes : List Nat → List Char
  | [] => []
  | [a] => [if 0xD800 ≤ a && a < 0xE000 then '\ufffd' else Char.ofNat a]
  | a :: b :: rest =>
    if 0xD800 ≤ a && a < 0xDC00 && 0xDC00 ≤ b && b < 0xE000 then
      Char.ofNat (0x10000 + (a - 0xD800) * 0x400 + (b - 0xDC00)) :: charsOfCodes rest
    else
      (if 0xD800 ≤ a && a < 0xE000 then '\ufffd' else Char.ofNat a) :: charsOfCodes (b :: rest)

def unescape? (cs : List Char) : Option (List Char) :=
  if cs.contains '\\' then (codesAt (asciiForm cs).length (asciiForm cs)).map charsOfCodes
  else some cs

/-- A text up to the quote that ends it, as it is written, and the rest. -/
def readQuoted (quote : Char) : List Char → Option (List Char × List Char)
  | [] => none
  | '\\' :: c :: cs => (readQuoted quote cs).map fun (text, rest) => ('\\' :: c :: text, rest)
  | c :: cs =>
    if c = quote then some ([], cs)
    else (readQuoted quote cs).map fun (text, rest) => (c :: text, rest)

def readGrouped (value? : Char → Option Nat) : List Char → List Nat × List Char
  | [] => ([], [])
  | '_' :: c :: cs =>
    match value? c with
    | some d =>
      let (ds, rest) := readGrouped value? cs
      (d :: ds, rest)
    | none => ([], '_' :: c :: cs)
  | c :: cs =>
    match value? c with
    | some d =>
      let (ds, rest) := readGrouped value? cs
      (d :: ds, rest)
    | none => ([], c :: cs)

def ofDigits (base : Nat) (ds : List Nat) : Nat := ds.foldl (fun n d => n * base + d) 0

def maxDigits : Nat := 4300

def binaryValue? (c : Char) : Option Nat :=
  if c = '0' then some 0 else if c = '1' then some 1 else none

def hexOrDigit? (c : Char) : Option Nat :=
  match Text.hexValue? c with
  | some d => some d
  | none => Text.digitValue? c

def baseOf? (c : Char) : Option (Nat × (Char → Option Nat)) :=
  if c = 'b' || c = 'B' then some (2, binaryValue?)
  else if c = 'o' || c = 'O' then some (8, octalValue?)
  else if c = 'x' || c = 'X' then some (16, hexOrDigit?)
  else none

def readBased? : List Char → Option (Nat × List Char)
  | '0' :: c :: cs => do
    let (base, value?) ← baseOf? c
    match readGrouped value? cs with
    | ([], _) => none
    | (ds, rest) => some (ofDigits base ds, rest)
  | _ => none

/-- A whole number: its digits may be of any script after the first. Zeros only go with zeros. -/
def readWhole? (cs : List Char) : Option (Except SyntaxError Nat × List Char) :=
  match readBased? cs with
  | some (n, rest) => some (.ok n, rest)
  | none =>
    match cs with
    | [] => none
    | c :: _ =>
      if !c.isDigit then none
      else
        let zero? (d : Char) : Option Nat := if d = '0' then some 0 else none
        let (ds, rest) := readGrouped (if c = '0' then zero? else Text.digitValue?) cs
        some (if ds.length > maxDigits then .error .integerTooLong else .ok (ofDigits 10 ds), rest)

def readDigits (cs : List Char) : List Char × List Char :=
  match cs with
  | [] => ([], [])
  | c :: _ =>
    if Text.isDigit c then
      let (ds, rest) := readGrouped (fun d => if Text.isDigit d then some d.toNat else none) cs
      (ds.map Char.ofNat, rest)
    else ([], cs)

def readFraction? : List Char → Option (List Char × List Char)
  | '.' :: cs =>
    match readDigits cs with
    | ([], _) => none
    | found => some found
  | _ => none

def readExponent? : List Char → Option (Bool × List Char × List Char)
  | mark :: cs =>
    if mark = 'e' || mark = 'E' then
      let (negative, cs) := match cs with
        | '-' :: cs => (true, cs)
        | '+' :: cs => (false, cs)
        | cs => (false, cs)
      match readDigits cs with
      | ([], _) => none
      | (ds, rest) => some (negative, ds, rest)
    else none
  | [] => none

def decimalOf (ds : List Char) : Nat := ofDigits 10 (ds.map fun c => c.toNat - 0x30)

def readFloat? (cs : List Char) : Option (Except SyntaxError Number.Binary64 × List Char) :=
  match readDigits cs with
  | ([], _) => none
  | (whole, rest) =>
    let (fraction, rest) := (readFraction? rest).getD ([], rest)
    let (negative, exponent, rest) := (readExponent? rest).getD (false, [], rest)
    if fraction.isEmpty && exponent.isEmpty then none
    else if (whole ++ fraction ++ exponent).all Char.isDigit then
      let n : Int := decimalOf exponent
      let place := (if negative then -n else n) - fraction.length
      some (.ok (.ofDecimal false (decimalOf (whole ++ fraction)) place), rest)
    else some (.error .foreignDigits, rest)

example : unescape? ['\\', 'x', '2', '3', '\\', 'q'] = some ['#', '\\', 'q'] := by decide +kernel
example : unescape? ['\\', 'x', '2'] = none := by decide +kernel
example : readWhole? ['1', '_', '0', '_', 'a'] = some (.ok 10, ['_', 'a']) := by rfl

end GlueCode.Template
