/-! # Tallies

What a run of a generator counts: the classes it generated, and those whose file it wrote. Tallies
add up part by part.
-/
namespace GlueCode

structure Tally where
  generated : Int := 0
  written : Int := 0
deriving DecidableEq, Repr, Inhabited

namespace Tally

def add (a b : Tally) : Tally := ⟨a.generated + b.generated, a.written + b.written⟩

instance : Add Tally := ⟨add⟩

def sum (tallies : List Tally) : Tally := tallies.foldr (· + ·) {}

def one (written : Bool) : Tally := ⟨1, if written then 1 else 0⟩

@[simp] theorem generated_add (a b : Tally) : (a + b).generated = a.generated + b.generated := rfl

@[simp] theorem written_add (a b : Tally) : (a + b).written = a.written + b.written := rfl

theorem mk_add_mk (a b c d : Int) : (⟨a, b⟩ : Tally) + ⟨c, d⟩ = ⟨a + c, b + d⟩ := rfl

@[simp] theorem sum_nil : sum [] = {} := rfl

@[simp] theorem sum_cons (t : Tally) (rest : List Tally) : sum (t :: rest) = t + sum rest := rfl

end Tally

end GlueCode
