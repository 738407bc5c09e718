import GlueCode.Number.Binary64
/-! # The shortest decimal

Of the decimals that read back as a given double, `shortest` takes one with the fewest digits, and
of those the nearest. The decimals tried are, for one digit, two digits and so on, the two
neighbours of the value among the numbers with so many digits. A `FloatLayout` decides how the
digits are written out.
-/
namespace GlueCode.Number

/-- The value `digits * 10 ^ exponent`. -/
structure Decimal where
  digits : Nat
  exponent : Int
deriving DecidableEq, Repr

def decimalBelow (c : Nat) (u : Int) (b : Nat) (q : Int) : Bool :=
  c * powPart 10 u * powPart 2 (-q) < b * powPart 2 q * powPart 10 (-u)

def decimalAbove (c : Nat) (u : Int) (b : Nat) (q : Int) : Bool :=
  b * powPart 2 q * powPart 10 (-u) < c * powPart 10 u * powPart 2 (-q)

/-- Whether a decimal reads back as the double `m * 2 ^ q`. -/
def readsBack (m : Nat) (q : Int) (c : Nat) (u : Int) : Bool :=
  let low := if m = leadingBit && q > -1074 then 4 * m - 1 else 4 * m - 2
  let high := 4 * m + 2
  if m % 2 = 0 then !decimalBelow c u low (q - 2) && !decimalAbove c u high (q - 2)
  else decimalAbove c u low (q - 2) && decimalBelow c u high (q - 2)

def leadingPlace (m : Nat) (q : Int) : Int :=
  let num := m * powPart 2 q
  let den := powPart 2 (-q)
  let guess : Int := (digitCount num : Int) - digitCount den
  if den * powPart 10 guess ≤ num * powPart 10 (-guess) then guess else guess - 1

/-- The nearer of the two neighbours with last place `u`, if one reads back. -/
def neighbour? (m : Nat) (q u : Int) : Option Decimal :=
  let below := (m * powPart 2 q * powPart 10 (-u)) / (powPart 2 (-q) * powPart 10 u)
  match readsBack m q below u, readsBack m q (below + 1) u with
  | false, false => none
  | true, false => some ⟨below, u⟩
  | false, true => some ⟨below + 1, u⟩
  | true, true =>
    if decimalBelow (2 * below + 1) u (2 * m) q then some ⟨below + 1, u⟩
    else if decimalAbove (2 * below + 1) u (2 * m) q then some ⟨below, u⟩
    else some ⟨below + below % 2, u⟩

def shortest (m : Nat) (q : Int) : Decimal :=
  let place := leadingPlace m q
  ((List.range 17).findSome? fun (n : Nat) => neighbour? m q (place - n)).getD ⟨m, 0⟩

structure FloatLayout where
  leastPlain : Int
  mostPlain : Int
  exponentMark : Char
  exponentWidth : Nat
  infinity : List Char
  nan : List Char

def padLeft (width : Nat) (fill : Char) (cs : List Char) : List Char :=
  List.replicate (width - cs.length) fill ++ cs

def natDigits (n : Nat) : List Char := Nat.toDigits 10 n

def FloatLayout.layOut (layout : FloatLayout) (ds : List Char) (place : Int) : List Char :=
  if layout.leastPlain ≤ place && place ≤ layout.mostPlain then
    if place < 0 then
      '0' :: '.' :: (List.replicate (-place - 1).toNat '0' ++ ds)
    else
      let whole := place.toNat + 1
      let zeros := List.replicate (whole - ds.length) '0'
      let fraction := if ds.length ≤ whole then ['0'] else ds.drop whole
      ds.take whole ++ zeros ++ '.' :: fraction
  else
    let fraction := match ds.drop 1 with
      | [] => []
      | rest => '.' :: rest
    let sign := if place < 0 then '-' else '+'
    ds.take 1 ++ fraction ++ layout.exponentMark :: sign ::
      padLeft layout.exponentWidth '0' (natDigits place.natAbs)

def FloatLayout.magnitude (layout : FloatLayout) (m : Nat) (q : Int) : List Char :=
  if m = 0 then ['0', '.', '0']
  else
    let d := shortest m q
    let ds := (natDigits d.digits).reverse.dropWhile (· = '0') |>.reverse
    layout.layOut ds ((natDigits d.digits).length + d.exponent - 1)

def FloatLayout.write (layout : FloatLayout) : Binary64 → List Char
  | .nan => layout.nan
  | .infinite negative => (if negative then ['-'] else []) ++ layout.infinity
  | .finite negative m q => (if negative then ['-'] else []) ++ layout.magnitude m q

end GlueCode.Number
