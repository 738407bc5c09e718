import GlueCode.Json.Basic
import GlueCode.Text.Digit
/-! # Reading JSON

The grammar is the standard one, with the three numbers that are not finite by name. A text that
starts with a byte order mark, holds a control character inside a string or goes on after the
value is malformed. Of two fields with one key the later value counts. An integer may have so many
digits and no more.

A text here is made of Unicode characters, and half a surrogate pair is none. Where the code of one
is written in a string, the replacement character stands in its place. The program keeps the half,
which then cannot be written to a file.
-/
namespace GlueCode.Json

inductive ReadError where
  | malformed
  | integerTooLong
deriving DecidableEq, Repr

def maxIntegerDigits : Nat := 4300

def isGap (c : Char) : Bool := c = ' ' || c = '\t' || c = '\n' || c = '\r'

def skipGaps (cs : List Char) : List Char := cs.dropWhile isGap

def after? (word cs : List Char) : Option (List Char) :=
  if word.isPrefixOf cs then some (cs.drop word.length) else none

def asciiDigits (cs : List Char) : List Char := cs.takeWhile Char.isDigit

def decimalValue (ds : List Char) : Nat := ds.foldl (fun n d => n * 10 + (d.toNat - 0x30)) 0

def readFraction : List Char → List Char × List Char
  | '.' :: cs =>
    let ds := asciiDigits cs
    if ds.isEmpty then ([], '.' :: cs) else (ds, cs.drop ds.length)
  | cs => ([], cs)

def readExponent (cs : List Char) : Option Int × List Char :=
  match cs with
  | mark :: rest =>
    if mark = 'e' || mark = 'E' then
      let (negative, body) := match rest with
        | '-' :: body => (true, body)
        | '+' :: body => (false, body)
        | body => (false, body)
      let ds := asciiDigits body
      if ds.isEmpty then (none, cs)
      else
        let n : Int := decimalValue ds
        (some (if negative then -n else n), body.drop ds.length)
    else (none, cs)
  | [] => (none, cs)

def readNumber (negative : Bool) (cs : List Char) : Except ReadError (Json × List Char) :=
  let whole := match cs with
    | '0' :: _ => ['0']
    | _ => asciiDigits cs
  if whole.isEmpty then .error .malformed
  else
    let (fraction, rest) := readFraction (cs.drop whole.length)
    let (exponent, rest) := readExponent rest
    if fraction.isEmpty && exponent.isNone then
      if whole.length > maxIntegerDigits then .error .integerTooLong
      else
        let n : Int := decimalValue whole
        .ok (.int (if negative then -n else n), rest)
    else
      let digits := decimalValue (whole ++ fraction)
      .ok (.float (.ofDecimal negative digits (exponent.getD 0 - fraction.length)), rest)

def readUnit? : List Char → Option (Nat × List Char)
  | a :: b :: c :: d :: rest => do
    let a ← Text.hexValue? a
    let b ← Text.hexValue? b
    let c ← Text.hexValue? c
    let d ← Text.hexValue? d
    pure (((a * 16 + b) * 16 + c) * 16 + d, rest)
  | _ => none

/-- One character from a code of four digits, or from a pair of them for the later planes. Half a
pair becomes the replacement character. -/
def readCode? (cs : List Char) : Option (Char × List Char) := do
  let (unit, rest) ← readUnit? cs
  if 0xD800 ≤ unit && unit < 0xDC00 then
    match rest with
    | '\\' :: 'u' :: more =>
      let (low, rest') ← readUnit? more
      if 0xDC00 ≤ low && low < 0xE000 then
        pure (Char.ofNat (0x10000 + (unit - 0xD800) * 0x400 + (low - 0xDC00)), rest')
      else pure ('\ufffd', rest)
    | _ => pure ('\ufffd', rest)
  else if 0xDC00 ≤ unit && unit < 0xE000 then pure ('\ufffd', rest)
  else pure (Char.ofNat unit, rest)

def simpleEscape? : Char → Option Char
  | '"' => some '"'
  | '\\' => some '\\'
  | '/' => some '/'
  | 'b' => some '\x08'
  | 'f' => some '\x0c'
  | 'n' => some '\n'
  | 'r' => some '\r'
  | 't' => some '\t'
  | _ => none

def readString : Nat → List Char → List Char → Except ReadError (String × List Char)
  | 0, _, _ => .error .malformed
  | fuel + 1, done, cs =>
    match cs with
    | [] => .error .malformed
    | '"' :: rest => .ok (String.ofList done.reverse, rest)
    | '\\' :: 'u' :: rest =>
      match readCode? rest with
      | some (c, rest) => readString fuel (c :: done) rest
      | none => .error .malformed
    | '\\' :: c :: rest =>
      match simpleEscape? c with
      | some c => readString fuel (c :: done) rest
      | none => .error .malformed
    | ['\\'] => .error .malformed
    | c :: rest => if c.toNat < 0x20 then .error .malformed else readString fuel (c :: done) rest

def readConstant (cs : List Char) : Except ReadError (Json × List Char) :=
  let constants : List (List Char × Json) :=
    [(['n', 'u', 'l', 'l'], .null), (['t', 'r', 'u', 'e'], .bool true),
      (['f', 'a', 'l', 's', 'e'], .bool false), (['N', 'a', 'N'], .float .nan),
      ("Infinity".toList, .float (.infinite false)),
      ("-Infinity".toList, .float (.infinite true))]
  match constants.findSome? fun (word, value) => (after? word cs).map (value, ·) with
  | some reading => .ok reading
  | none => .error .malformed

mutual

/-- One value; `fuel` bounds the number of steps and the length of the text suffices for it. -/
def readValue : Nat → List Char → Except ReadError (Json × List Char)
  | 0, _ => .error .malformed
  | fuel + 1, cs =>
    match cs with
    | '"' :: rest => (readString (rest.length + 1) [] rest).map fun (s, rest) => (.str s, rest)
    | '[' :: rest =>
      match skipGaps rest with
      | ']' :: rest => .ok (.arr [], rest)
      | rest => (readItems fuel rest).map fun (items, rest) => (.arr items, rest)
    | '\x7b' :: rest =>
      match skipGaps rest with
      | '\x7d' :: rest => .ok (.obj [], rest)
      | rest => (readFields fuel [] rest).map fun (fields, rest) => (.obj fields, rest)
    | '-' :: 'I' :: _ => readConstant cs
    | '-' :: rest => readNumber true rest
    | c :: _ => if c.isDigit then readNumber false cs else readConstant cs
    | [] => .error .malformed

def readItems : Nat → List Char → Except ReadError (List Json × List Char)
  | 0, _ => .error .malformed
  | fuel + 1, cs => do
    let (item, rest) ← readValue fuel cs
    match skipGaps rest with
    | ']' :: rest => .ok ([item], rest)
    | ',' :: rest =>
      let (items, rest) ← readItems fuel (skipGaps rest)
      .ok (item :: items, rest)
    | _ => .error .malformed

def readFields : Nat → Fields → List Char → Except ReadError (Fields × List Char)
  | 0, _, _ => .error .malformed
  | fuel + 1, before, cs =>
    match cs with
    | '"' :: rest => do
      let (key, rest) ← readString (rest.length + 1) [] rest
      match skipGaps rest with
      | ':' :: rest =>
        let (value, rest) ← readValue fuel (skipGaps rest)
        let fields := Ledger.put key value before
        match skipGaps rest with
        | '\x7d' :: rest => .ok (fields, rest)
        | ',' :: rest => readFields fuel fields (skipGaps rest)
        | _ => .error .malformed
      | _ => .error .malformed
    | _ => .error .malformed

end

def readChars (cs : List Char) : Except ReadError Json := do
  let (value, rest) ← readValue (2 * cs.length + 2) (skipGaps cs)
  if (skipGaps rest).isEmpty then .ok value else .error .malformed

def read (s : String) : Except ReadError Json := readChars s.toList

end GlueCode.Json
