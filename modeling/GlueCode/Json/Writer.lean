import GlueCode.Json.Basic
/-! # Writing JSON

Two forms: one field or item a line, indented by two blanks a level, with all characters above the
controls kept; and everything on one line in ASCII, where other characters are written by code.
-/
namespace GlueCode.Json

def escapeChar (c : Char) : List Char :=
  match c with
  | '"' => ['\\', '"']
  | '\\' => ['\\', '\\']
  | '\n' => ['\\', 'n']
  | '\r' => ['\\', 'r']
  | '\t' => ['\\', 't']
  | '\x08' => ['\\', 'b']
  | '\x0c' => ['\\', 'f']
  | c => if c.toNat < 0x20 then '\\' :: 'u' :: Text.hexDigits 4 c.toNat else [c]

def escapeAscii (c : Char) : List Char :=
  let n := c.toNat
  if n < 0x7F then escapeChar c
  else if n < 0x10000 then '\\' :: 'u' :: Text.hexDigits 4 n
  else
    let high := 0xD800 + (n - 0x10000) / 0x400
    let low := 0xDC00 + (n - 0x10000) % 0x400
    '\\' :: 'u' :: Text.hexDigits 4 high ++ '\\' :: 'u' :: Text.hexDigits 4 low

def stringWith (escape : Char → List Char) (s : String) : List Char :=
  '"' :: (s.toList.flatMap escape ++ ['"'])

def jsonFloat : Number.FloatLayout :=
  { plainFloat with infinity := "Infinity".toList, nan := "NaN".toList }

def scalar : Json → List Char
  | bool true => ['t', 'r', 'u', 'e']
  | bool false => ['f', 'a', 'l', 's', 'e']
  | int n => intDigits n
  | float x => jsonFloat.write x
  | _ => ['n', 'u', 'l', 'l']

def lineStart (level : Nat) : List Char := '\n' :: List.replicate (2 * level) ' '

mutual

def prettyAt (level : Nat) : Json → List Char
  | str s => stringWith escapeChar s
  | arr [] => ['[', ']']
  | arr items =>
    let sep := ',' :: lineStart (level + 1)
    '[' :: (lineStart (level + 1) ++ Text.joinWith sep (prettyItems (level + 1) items)
      ++ lineStart level ++ [']'])
  | obj [] => ['\x7b', '\x7d']
  | obj fields =>
    let sep := ',' :: lineStart (level + 1)
    '\x7b' :: (lineStart (level + 1) ++ Text.joinWith sep (prettyFields (level + 1) fields)
      ++ lineStart level ++ ['\x7d'])
  | value => scalar value

def prettyItems (level : Nat) : List Json → List (List Char)
  | [] => []
  | item :: rest => prettyAt level item :: prettyItems level rest

def prettyFields (level : Nat) : List (String × Json) → List (List Char)
  | [] => []
  | (key, value) :: rest =>
    (stringWith escapeChar key ++ ':' :: ' ' :: prettyAt level value) :: prettyFields level rest

end

def pretty (value : Json) : String := String.ofList (prettyAt 0 value)

mutual

def compactChars : Json → List Char
  | str s => stringWith escapeAscii s
  | arr items => '[' :: (Text.joinWith [','] (compactItems items) ++ [']'])
  | obj fields => '\x7b' :: (Text.joinWith [','] (compactFields fields) ++ ['\x7d'])
  | value => scalar value

def compactItems : List Json → List (List Char)
  | [] => []
  | item :: rest => compactChars item :: compactItems rest

def compactFields : List (String × Json) → List (List Char)
  | [] => []
  | (key, value) :: rest =>
    (stringWith escapeAscii key ++ ':' :: compactChars value) :: compactFields rest

end

def compact (value : Json) : String := String.ofList (compactChars value)

end GlueCode.Json
