import GlueCode.Template.Token
import GlueCode.Text.Blank
import GlueCode.Text.Lines
/-! # Segments of a template

A template source is text with marked parts: printed expressions, tags and comments. A sign inside a
marker says what happens to the blanks beside it. A minus removes them all and a plus keeps them.
Without a sign, a tag or comment removes the blanks before it when nothing else stands before it on
its line, and one line feed after it; a printed expression keeps everything. Comments leave no
segment, and a part that has no end is the last one.
-/
namespace GlueCode.Template

inductive Segment where
  | text (cs : List Char)
  | print (tokens : List Token)
  | tag (tokens : List Token)
deriving DecidableEq, Repr

inductive Marker where
  | print
  | tag
  | comment
deriving DecidableEq, Repr

def Marker.close : Marker → List Char
  | .print => ['\x7d', '\x7d']
  | .tag => ['%', '\x7d']
  | .comment => ['#', '\x7d']

def opening? : List Char → Option (Marker × List Char)
  | '\x7b' :: '\x7b' :: cs => some (.print, cs)
  | '\x7b' :: '%' :: cs => some (.tag, cs)
  | '\x7b' :: '#' :: cs => some (.comment, cs)
  | _ => none

def plainRun : List Char → List Char
  | [] => []
  | c :: cs => if (opening? (c :: cs)).isSome then [] else c :: plainRun cs

theorem plainRun_prefix (cs : List Char) : plainRun cs <+: cs := by
  induction cs with
  | nil => exact List.prefix_refl []
  | cons c cs ih =>
    rw [plainRun]
    split
    · exact List.nil_prefix
    · exact (List.prefix_cons_inj c).2 ih

inductive Sign where
  | none
  | minus
  | plus
deriving DecidableEq, Repr

def readSign : List Char → Sign × List Char
  | '-' :: cs => (.minus, cs)
  | '+' :: cs => (.plus, cs)
  | cs => (.none, cs)

/-- Drops the last line of a text when it is blank. A text without a line feed is one line only when
it starts one. -/
def dropIndent (startsLine : Bool) (text : List Char) : List Char :=
  let last := (text.reverse.takeWhile (· ≠ '\n')).length
  let kept := text.take (text.length - last)
  if (startsLine || !kept.isEmpty) && Text.isBlankLine (text.drop (text.length - last)) then kept
  else text

def textBefore (marker : Marker) (sign : Sign) (startsLine : Bool) (text : List Char) : List Char :=
  match sign with
  | .minus => Text.trimEnd text
  | .plus => text
  | .none => if marker = .print then text else dropIndent startsLine text

def textSegment (text : List Char) : List Segment := if text.isEmpty then [] else [.text text]

def after? (word cs : List Char) : Option (List Char) :=
  if word.isPrefixOf cs then some (cs.drop word.length) else none

/-- The end of a marked part that a text starts with: the blanks that go with it and the rest. -/
def ending? (marker : Marker) (cs : List Char) : Option (List Char × List Char) :=
  match after? ('-' :: marker.close) cs with
  | some rest => some (rest.takeWhile Text.isBlank, Text.trimStart rest)
  | none =>
    match after? marker.close cs with
    | some ('\n' :: rest) => some (if marker = .print then ([], '\n' :: rest) else (['\n'], rest))
    | some rest => some ([], rest)
    | none =>
      if marker = .print then none
      else (after? ('+' :: marker.close) cs).map fun rest => ([], rest)

def commentEnd? : List Char → Option (List Char × List Char)
  | [] => none
  | c :: cs =>
    match ending? .comment (c :: cs) with
    | some found => some found
    | none => commentEnd? cs

/-- The tokens of a marked part, and what comes after its end: the blanks that go with it and the
rest. The end does not count while brackets are open. -/
def readTokens (marker : Marker) : Nat → Bool → List Char → List Char →
    List Token × Option (List Char × List Char)
  | 0, _, _, _ => ([.unreadable .malformed], none)
  | _, _, _, [] => ([.unreadable .malformed], none)
  | fuel + 1, afterPoint, opened, c :: cs =>
    match if opened.isEmpty then ending? marker (c :: cs) else none with
    | some found => ([], some found)
    | none =>
      if Text.isBlank c then readTokens marker fuel false opened cs
      else
        let (token, rest) := readToken afterPoint (c :: cs)
        match bracketsAfter? opened token with
        | some opened =>
          let (tokens, found) := readTokens marker fuel (token = .mark '.') opened rest
          (token :: tokens, found)
        | none =>
          match token with
          | .unreadable e => ([.unreadable e], none)
          | _ => ([.unreadable .malformed], none)

def readMarked (marker : Marker) (cs : List Char) : List Segment × Option (List Char × List Char) :=
  match marker with
  | .comment =>
    match commentEnd? cs with
    | some found => ([], some found)
    | none => (if cs.isEmpty then [] else [.tag [.unreadable .malformed]], none)
  | .print =>
    let (tokens, found) := readTokens .print (cs.length + 1) false [] cs
    ([.print tokens], found)
  | .tag =>
    let (tokens, found) := readTokens .tag (cs.length + 1) false [] cs
    ([.tag tokens], found)

/-- The segments of a source. They end where a marked part does not. -/
def segmentsAt : Nat → Bool → List Char → List Segment
  | 0, _, _ => []
  | fuel + 1, startsLine, cs =>
    let text := plainRun cs
    match opening? (cs.drop text.length) with
    | none => textSegment text
    | some (marker, rest) =>
      let (sign, rest) := readSign rest
      let (segment, found) := readMarked marker rest
      textSegment (textBefore marker sign startsLine text) ++ segment ++
        match found with
        | some (gap, rest) => segmentsAt fuel (gap.getLast? = some '\n') rest
        | none => []

def segments (source : List Char) : List Segment :=
  let cs := Text.unifyNewlines source
  segmentsAt (cs.length + 1) true cs

example : segments ['a', '\n', ' ', '\x7b', '#', '#', '\x7d', '\n', 'b']
    = [.text ['a', '\n'], .text ['b']] := by decide +kernel

end GlueCode.Template
