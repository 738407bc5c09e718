import GlueCode.Json.Reader
import Mathlib.Data.List.Infix
import Mathlib.Data.List.TakeWhile
/-! # Integers that are too long

A reader takes what it reads from the front of its text and leaves the rest as it is. So where it
gives up on an integer, the text that it was given has more digits in a row than an integer may
have. The induction is on the fuel of the reader, for values, items and fields at once. -/
namespace GlueCode.Json

variable {α β : Type} {cs cs' rest : List Char}

/-- Somewhere more digits stand in a row than an integer may have. -/
def HasLongRun (cs : List Char) : Prop :=
  ∃ ds, ds <:+: cs ∧ (∀ d ∈ ds, d.isDigit = true) ∧ maxIntegerDigits < ds.length

theorem HasLongRun.mono (h : HasLongRun cs) (hsuffix : cs <:+ cs') : HasLongRun cs' := by
  obtain ⟨ds, hds, hdigits, hlong⟩ := h
  exact ⟨ds, hds.trans hsuffix.isInfix, hdigits, hlong⟩

/-- A reader leaves the end of its text, or the text is malformed, or it has a long run of digits. -/
inductive Bounded (cs : List Char) : Except ReadError (α × List Char) → Prop where
  | read {a : α} {rest : List Char} (h : rest <:+ cs) : Bounded cs (.ok (a, rest))
  | malformed : Bounded cs (.error .malformed)
  | tooLong (h : HasLongRun cs) : Bounded cs (.error .integerTooLong)

namespace Bounded

variable {result : Except ReadError (α × List Char)}

theorem mono (h : Bounded cs result) (hsuffix : cs <:+ cs') : Bounded cs' result := by
  cases h with
  | read hrest => exact .read (hrest.trans hsuffix)
  | malformed => exact .malformed
  | tooLong hrun => exact .tooLong (hrun.mono hsuffix)

theorem map {f : α × List Char → β × List Char} (h : Bounded cs result)
    (hf : ∀ a rest, (f (a, rest)).2 = rest) : Bounded cs (result.map f) := by
  cases h with
  | @read a rest hrest => exact .read ((hf a rest).symm ▸ hrest)
  | malformed => exact .malformed
  | tooLong hrun => exact .tooLong hrun

theorem bind {f : α × List Char → Except ReadError (β × List Char)} (h : Bounded cs result)
    (hf : ∀ a rest, rest <:+ cs → Bounded cs (f (a, rest))) : Bounded cs (result >>= f) := by
  cases h with
  | read hrest => exact hf _ _ hrest
  | malformed => exact .malformed
  | tooLong hrun => exact .tooLong hrun

end Bounded

theorem skipGaps_suffix (cs : List Char) : skipGaps cs <:+ cs := List.dropWhile_suffix _

theorem suffix_of_skipGaps {c : Char} {more : List Char} (h : skipGaps cs = c :: more) :
    more <:+ cs :=
  (List.suffix_cons c more).trans (h ▸ skipGaps_suffix cs)

theorem readFraction_suffix (cs : List Char) : (readFraction cs).2 <:+ cs := by
  unfold readFraction
  split
  · next rest =>
    dsimp only
    split
    · exact List.suffix_rfl
    · exact (List.drop_suffix _ _).trans (List.suffix_cons _ _)
  · exact List.suffix_rfl

theorem readExponent_suffix (cs : List Char) : (readExponent cs).2 <:+ cs := by
  unfold readExponent
  split
  · next mark more =>
    have hdigits : ∀ (n : Int) {body : List Char}, body <:+ mark :: more →
        (if (asciiDigits body).isEmpty then (none, mark :: more)
          else (some n, body.drop (asciiDigits body).length)).2 <:+ mark :: more := by
      intro n body hbody
      split
      · exact List.suffix_rfl
      · exact (List.drop_suffix _ _).trans hbody
    split
    · dsimp only
      split
      · exact hdigits _ ((List.suffix_cons _ _).trans (List.suffix_cons _ _))
      · exact hdigits _ ((List.suffix_cons _ _).trans (List.suffix_cons _ _))
      · exact hdigits _ (List.suffix_cons _ _)
    · exact List.suffix_rfl
  · exact List.suffix_rfl

def LeadingDigits (ds cs : List Char) : Prop := ds <+: cs ∧ ∀ d ∈ ds, d.isDigit = true

theorem leadingDigits_whole (cs : List Char) :
    LeadingDigits (match cs with
      | '0' :: _ => ['0']
      | _ => asciiDigits cs) cs := by
  split
  · next more =>
    constructor
    · exact ⟨more, rfl⟩
    · intro d hd
      obtain rfl := List.mem_singleton.1 hd
      rfl
  · constructor
    · exact List.takeWhile_prefix _
    · exact fun d hd => List.mem_takeWhile_imp hd

theorem bounded_readNumber (negative : Bool) (cs : List Char) :
    Bounded cs (readNumber negative cs) := by
  have hwhole := leadingDigits_whole cs
  unfold readNumber
  extract_lets whole
  change LeadingDigits whole cs at hwhole
  have hfraction := readFraction_suffix (cs.drop whole.length)
  split
  · exact .malformed
  · split
    next fraction afterFraction hf =>
    rw [hf] at hfraction
    have hexponent := readExponent_suffix afterFraction
    split
    next exponent afterExponent he =>
    rw [he] at hexponent
    have hrest : afterExponent <:+ cs :=
      hexponent.trans (hfraction.trans (List.drop_suffix _ _))
    split
    · split
      · next hlong => exact .tooLong ⟨whole, hwhole.1.isInfix, hwhole.2, hlong⟩
      · exact .read hrest
    · exact .read hrest

theorem readUnit?_suffix {unit : Nat} (h : readUnit? cs = some (unit, rest)) : rest <:+ cs := by
  unfold readUnit? at h
  split at h
  · next a b c d more =>
    simp only [Option.bind_eq_bind, Option.bind_eq_some_iff, Option.pure_def,
      Option.some.injEq, Prod.mk.injEq] at h
    obtain ⟨-, -, -, -, -, -, -, -, -, rfl⟩ := h
    exact ⟨[a, b, c, d], rfl⟩
  · cases h

theorem readCode?_suffix {c : Char} (h : readCode? cs = some (c, rest)) : rest <:+ cs := by
  unfold readCode? at h
  obtain ⟨⟨unit, first⟩, hunit, h⟩ := Option.bind_eq_some_iff.1 h
  have hfirst := readUnit?_suffix hunit
  dsimp only at h
  split at h
  · split at h
    · next more =>
      obtain ⟨⟨low, second⟩, hlow, h⟩ := Option.bind_eq_some_iff.1 h
      have hsecond : second <:+ cs :=
        (readUnit?_suffix hlow).trans (List.IsSuffix.trans ⟨['\\', 'u'], rfl⟩ hfirst)
      dsimp only at h
      split at h
      · obtain ⟨-, rfl⟩ := Prod.mk.inj (Option.some.inj h)
        exact hsecond
      · obtain ⟨-, rfl⟩ := Prod.mk.inj (Option.some.inj h)
        exact hfirst
    · obtain ⟨-, rfl⟩ := Prod.mk.inj (Option.some.inj h)
      exact hfirst
  · split at h
    · obtain ⟨-, rfl⟩ := Prod.mk.inj (Option.some.inj h)
      exact hfirst
    · obtain ⟨-, rfl⟩ := Prod.mk.inj (Option.some.inj h)
      exact hfirst

theorem bounded_readString (fuel : Nat) (done cs : List Char) :
    Bounded cs (readString fuel done cs) := by
  induction fuel generalizing done cs with
  | zero => exact .malformed
  | succ fuel ih =>
    rw [readString.eq_def]
    dsimp only
    split
    · exact .malformed
    · exact .read (List.suffix_cons _ _)
    · next more =>
      split
      · next c after hcode =>
        exact (ih _ after).mono ((readCode?_suffix hcode).trans ⟨['\\', 'u'], rfl⟩)
      · exact .malformed
    · next c more _ =>
      split
      · exact (ih _ more).mono ⟨['\\', c], rfl⟩
      · exact .malformed
    · exact .malformed
    · next c more _ _ _ _ =>
      split
      · exact .malformed
      · exact (ih _ more).mono (List.suffix_cons c more)

theorem bounded_readConstant (cs : List Char) : Bounded cs (readConstant cs) := by
  unfold readConstant
  extract_lets constants
  split
  · next reading hreading =>
    obtain ⟨entry, -, hafter⟩ := List.exists_of_findSome?_eq_some hreading
    obtain ⟨rest, hrest, rfl⟩ := Option.map_eq_some_iff.1 hafter
    rw [after?] at hrest
    split at hrest
    · cases hrest
      exact .read (List.drop_suffix _ _)
    · cases hrest
  · exact .malformed

structure ReadsWithin (fuel : Nat) : Prop where
  value : ∀ cs, Bounded cs (readValue fuel cs)
  items : ∀ cs, Bounded cs (readItems fuel cs)
  fields : ∀ before cs, Bounded cs (readFields fuel before cs)

namespace ReadsWithin

variable {fuel : Nat}

theorem value_next (ih : ReadsWithin fuel) (cs : List Char) :
    Bounded cs (readValue (fuel + 1) cs) := by
  rw [readValue.eq_def]
  dsimp only
  split
  · next more =>
    exact ((bounded_readString _ [] more).map fun _ _ => rfl).mono (List.suffix_cons _ _)
  · next more =>
    split
    · next hgaps => exact .read ((suffix_of_skipGaps hgaps).trans (List.suffix_cons _ _))
    · exact ((ih.items _).map fun _ _ => rfl).mono
        ((skipGaps_suffix more).trans (List.suffix_cons _ _))
  · next more =>
    split
    · next hgaps => exact .read ((suffix_of_skipGaps hgaps).trans (List.suffix_cons _ _))
    · exact ((ih.fields [] _).map fun _ _ => rfl).mono
        ((skipGaps_suffix more).trans (List.suffix_cons _ _))
  · exact bounded_readConstant _
  · next more _ => exact (bounded_readNumber true more).mono (List.suffix_cons _ _)
  · split
    · exact bounded_readNumber false _
    · exact bounded_readConstant _
  · exact .malformed

theorem items_next (ih : ReadsWithin fuel) (cs : List Char) :
    Bounded cs (readItems (fuel + 1) cs) := by
  unfold readItems
  refine (ih.value cs).bind fun item rest hrest => ?_
  dsimp only
  split
  · next hgaps => exact .read ((suffix_of_skipGaps hgaps).trans hrest)
  · next more hgaps =>
    have hmore : skipGaps more <:+ cs :=
      (skipGaps_suffix more).trans ((suffix_of_skipGaps hgaps).trans hrest)
    exact ((ih.items _).mono hmore).bind fun items last hlast => .read hlast
  · exact .malformed

theorem fields_next (ih : ReadsWithin fuel) (before : Fields) (cs : List Char) :
    Bounded cs (readFields (fuel + 1) before cs) := by
  unfold readFields
  split
  · next more =>
    refine ((bounded_readString _ [] more).mono (List.suffix_cons _ _)).bind
      fun key afterKey hkey => ?_
    dsimp only
    split
    · next afterColon hgaps =>
      have hcolon : skipGaps afterColon <:+ '"' :: more :=
        (skipGaps_suffix _).trans ((suffix_of_skipGaps hgaps).trans hkey)
      refine ((ih.value _).mono hcolon).bind fun value afterValue hvalue => ?_
      dsimp only
      split
      · next hgaps => exact .read ((suffix_of_skipGaps hgaps).trans hvalue)
      · next others hgaps =>
        exact (ih.fields _ _).mono
          ((skipGaps_suffix others).trans ((suffix_of_skipGaps hgaps).trans hvalue))
      · exact .malformed
    · exact .malformed
  · exact .malformed

end ReadsWithin

theorem readsWithin (fuel : Nat) : ReadsWithin fuel := by
  induction fuel with
  | zero => exact ⟨fun _ => .malformed, fun _ => .malformed, fun _ _ => .malformed⟩
  | succ fuel ih => exact ⟨ih.value_next, ih.items_next, ih.fields_next⟩

theorem hasLongRun_of_read {s : String} (h : read s = .error .integerTooLong) :
    HasLongRun s.toList := by
  unfold read readChars at h
  have hbounded := (readsWithin (2 * s.toList.length + 2)).value (skipGaps s.toList)
  simp only [bind, Except.bind] at h
  split at h
  · next e hvalue =>
    obtain rfl := Except.error.inj h
    rw [hvalue] at hbounded
    cases hbounded with
    | tooLong hrun => exact hrun.mono (skipGaps_suffix _)
  · split at h <;> cases h

end GlueCode.Json
