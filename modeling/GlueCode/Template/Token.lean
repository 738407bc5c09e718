import GlueCode.Template.Literal
import GlueCode.Text.Identifier
/-! # Tokens

Inside its marked parts a template consists of words, literals and marks. A number that follows a
point has no fraction of its own, so that a chain of numbered fields can be told from a decimal. The
tokens of a part end where it cannot be read further; what is wrong there stands in their place.
-/
namespace GlueCode.Template

inductive Token where
  | word (name : String)
  | number (value : Nat)
  | decimal (value : Number.Binary64)
  | quoted (text : List Char)
  | mark (c : Char)
  /-- Here the tokens end before their part does. -/
  | unreadable (e : SyntaxError)
deriving DecidableEq, Repr

def markChars : List Char :=
  ['+', '-', '/', '*', '%', '~', '[', ']', '(', ')', '\x7b', '\x7d', '=', '!', '<', '>', '.', ':',
    '|', ',', ';']

def closing? : Char → Option Char
  | '(' => some ')'
  | '[' => some ']'
  | '\x7b' => some '\x7d'
  | _ => none

/-- The brackets that are still open after a mark; nothing when it closes the wrong one. -/
def brackets? (opened : List Char) (c : Char) : Option (List Char) :=
  match closing? c with
  | some close => some (close :: opened)
  | none =>
    if c = ')' || c = ']' || c = '\x7d' then
      match opened with
      | expected :: rest => if c = expected then some rest else none
      | [] => none
    else some opened

def bracketsAfter? (opened : List Char) : Token → Option (List Char)
  | .mark c => brackets? opened c
  | .unreadable _ => none
  | _ => some opened

def readQuotedToken (quote : Char) (cs : List Char) : Token × List Char :=
  match readQuoted quote cs with
  | none => (.unreadable .malformed, [])
  | some (written, rest) =>
    match unescape? written with
    | some text => (.quoted text, rest)
    | none => (.unreadable .malformed, rest)

def readNumber? (afterPoint : Bool) (cs : List Char) : Option (Token × List Char) :=
  match if afterPoint then none else readFloat? cs with
  | some (.ok x, rest) => some (.decimal x, rest)
  | some (.error e, rest) => some (.unreadable e, rest)
  | none =>
    match readWhole? cs with
    | some (.ok n, rest) => some (.number n, rest)
    | some (.error e, rest) => some (.unreadable e, rest)
    | none => none

def readToken (afterPoint : Bool) (cs : List Char) : Token × List Char :=
  match readNumber? afterPoint cs with
  | some found => found
  | none =>
    let word := Text.leadingIdentifier cs
    if !word.isEmpty then (.word (String.ofList word), cs.drop word.length)
    else
      match cs with
      | [] => (.unreadable .malformed, [])
      | c :: cs =>
        if c = '\'' || c = '"' then readQuotedToken c cs
        else if markChars.contains c then (.mark c, cs)
        else (.unreadable .malformed, [])

example : readToken false ['1', '.', '5', '|'] = (.decimal (.ofDecimal false 15 (-1)), ['|']) := by
  decide +kernel
example : readToken true ['1', '.', '5', '|'] = (.number 1, ['.', '5', '|']) := by decide +kernel

end GlueCode.Template
