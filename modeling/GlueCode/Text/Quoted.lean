import GlueCode.Text.Printable
/-! # Quoted text

The quoted form of a text stands between single quotes, or between double quotes when the text
holds a single quote and no double quote. Inside, the quote in use and the backslash get a
backslash before them; line feed, carriage return and tab are written by letter, and every other
character that is not kept as it is by its code in hexadecimal.
-/
namespace GlueCode.Text

def hexDigit (n : Nat) : Char := Char.ofNat (if n < 10 then 0x30 + n else 0x57 + n)

def hexDigits : Nat → Nat → List Char
  | 0, _ => []
  | width + 1, n => hexDigits width (n / 16) ++ [hexDigit (n % 16)]

def codeEscape (c : Char) : List Char :=
  let n := c.toNat
  if n < 0x100 then '\\' :: 'x' :: hexDigits 2 n
  else if n < 0x10000 then '\\' :: 'u' :: hexDigits 4 n
  else '\\' :: 'U' :: hexDigits 8 n

def quoteChar (keep : Char → Bool) (quote c : Char) : List Char :=
  if c = quote || c = '\\' then ['\\', c]
  else if c = '\n' then ['\\', 'n']
  else if c = '\r' then ['\\', 'r']
  else if c = '\t' then ['\\', 't']
  else if keep c then [c]
  else codeEscape c

def quoteKeeping (keep : Char → Bool) (cs : List Char) : List Char :=
  let quote := if cs.contains '\'' && !cs.contains '"' then '"' else '\''
  quote :: (cs.flatMap (quoteChar keep quote) ++ [quote])

def quoteChars (cs : List Char) : List Char := quoteKeeping isPrintable cs

def quote (s : String) : String := String.ofList (quoteChars s.toList)

/-- The quoted form that holds no character above the tilde. -/
def quoteAscii (cs : List Char) : List Char :=
  quoteKeeping (fun c => isPrintable c && c.toNat < 0x80) cs

example : quoteChars ['a', '\'', '\n'] = ['"', 'a', '\'', '\\', 'n', '"'] := by decide +kernel

end GlueCode.Text
