/-! # Double-precision numbers

A finite double is a sign, a mantissa below `2 ^ 53` and a power of two not below `2 ^ (-1074)`.
`ofDecimal` takes a decimal to the nearest double, of two equally near ones to the one with the
even mantissa, and a decimal that is too large to an infinity.
-/
namespace GlueCode.Number

inductive Binary64 where
  | nan
  | infinite (negative : Bool)
  /-- The value `mantissa * 2 ^ exponent`, negated when `negative`. -/
  | finite (negative : Bool) (mantissa : Nat) (exponent : Int)
deriving DecidableEq, Repr, Inhabited

/-- The quotient as the nearest natural number; a half goes to the even neighbour. -/
def roundQuotient (num den : Nat) : Nat :=
  let q := num / den
  let r := num % den
  if 2 * r < den then q
  else if den < 2 * r then q + 1
  else q + q % 2

def digitCount (n : Nat) : Nat := if n = 0 then 0 else (Nat.toDigits 10 n).length

def powPart (base : Nat) (exponent : Int) : Nat := Nat.pow base exponent.toNat

/-- The mantissas that use all their bits start here and end below twice as much. -/
def leadingBit : Nat := 0x10000000000000

namespace Binary64

def zero (negative : Bool) : Binary64 := .finite negative 0 (-1074)

def ofQuotient (negative : Bool) (num den : Nat) : Binary64 :=
  let guess : Int := (num.log2 : Int) - den.log2
  let top := if den * powPart 2 guess ≤ num * powPart 2 (-guess) then guess else guess - 1
  let exponent := max (-1074) (top - 52)
  let mantissa := roundQuotient (num * powPart 2 (-exponent)) (den * powPart 2 exponent)
  let (mantissa, exponent) :=
    if mantissa = 2 * leadingBit then (leadingBit, exponent + 1) else (mantissa, exponent)
  if exponent > 971 then .infinite negative else .finite negative mantissa exponent

def ofDecimal (negative : Bool) (digits : Nat) (exponent : Int) : Binary64 :=
  if digits = 0 then zero negative
  else
    let magnitude := digitCount digits + exponent
    if magnitude > 310 then .infinite negative
    else if magnitude < -325 then zero negative
    else ofQuotient negative (digits * powPart 10 exponent) (powPart 10 (-exponent))

def isZero : Binary64 → Bool
  | .finite _ 0 _ => true
  | _ => false

def toInt? : Binary64 → Option Int
  | .finite negative mantissa exponent =>
    let den := powPart 2 (-exponent)
    if mantissa % den = 0 then
      let n : Int := mantissa / den * powPart 2 exponent
      some (if negative then -n else n)
    else none
  | _ => none

def neg : Binary64 → Binary64
  | .nan => .nan
  | .infinite negative => .infinite !negative
  | .finite negative mantissa exponent => .finite (!negative) mantissa exponent

/-- Whether the number is greater than one; not-a-number is not. -/
def exceedsOne : Binary64 → Bool
  | .nan => false
  | .infinite negative => !negative
  | .finite negative mantissa exponent =>
    !negative && powPart 2 (-exponent) < mantissa * powPart 2 exponent

end Binary64

example : leadingBit = 2 ^ 52 := by decide +kernel
example : Binary64.ofDecimal false 5 (-1) = .finite false leadingBit (-53) := by decide +kernel
example : Binary64.ofDecimal true 1 309 = .infinite true := by decide +kernel

end GlueCode.Number
