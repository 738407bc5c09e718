import GlueCode.Text.LowerCase.Table
/-! # Lower case

`lower` replaces each letter by its lower-case letter. Two letters need more: the capital I with a
dot becomes two characters, and a sigma that ends a word becomes the final sigma. A sigma ends a
word when the nearest character before it that is not ignorable has case, and the nearest one
after it, if any, has none.
-/
namespace GlueCode.Text

private def inRuns (runs : List (Nat × Nat)) (c : Char) : Bool :=
  runs.any fun (first, last) => first ≤ c.toNat && c.toNat ≤ last

def isCased (c : Char) : Bool := inRuns casedRanges c

def isCaseIgnorable (c : Char) : Bool := inRuns caseIgnorableRanges c

/-- Whether the nearest character that is not ignorable has case. -/
def meetsCased (cs : List Char) : Bool :=
  match cs.dropWhile isCaseIgnorable with
  | [] => false
  | c :: _ => isCased c

def lowerChar (c : Char) : Char :=
  match lowerRuns.find? fun (first, last, step, _) =>
      first ≤ c.toNat && c.toNat ≤ last && (c.toNat - first) % step == 0 with
  | some (_, _, _, shift) => Char.ofNat (Int.toNat (c.toNat + shift))
  | none => c

/-- Lower-cases a text whose already read part is `before`, nearest character first. -/
def lowerAfter (before : List Char) : List Char → List Char
  | [] => []
  | c :: cs =>
    let image :=
      if c = 'Σ' then [if meetsCased before && !meetsCased cs then 'ς' else 'σ']
      else if c = 'İ' then ['i', '\u0307']
      else [lowerChar c]
    image ++ lowerAfter (c :: before) cs

def lowerChars (cs : List Char) : List Char := lowerAfter [] cs

def lower (s : String) : String := String.ofList (lowerChars s.toList)

example : lowerChars ['Ο', 'Σ', '.', 'Σ'] = ['ο', 'σ', '.', 'ς'] := by decide +kernel

end GlueCode.Text
