import GlueCode.Json.Basic
import Mathlib.Data.List.Forall2
import Mathlib.Order.Basic
/-! # Values that are equal

Two JSON values are the same when they compare equal: numbers by what they are worth, however they
are written, a truth value being one or zero; arrays item by item; objects key by key, in any order.
Not-a-number is the same as nothing, itself included.

A value inside another one is never the same as it. The measure that shows this is how deep arrays
and objects are nested, which values that are the same agree on. -/
namespace GlueCode

namespace Json

def number? : Json → Option Rat
  | .bool b => some b.toInt
  | .int n => some n
  | .float (.finite negative mantissa exponent) =>
    let magnitude : Rat := mantissa * (2 : Rat) ^ exponent
    some (if negative then -magnitude else magnitude)
  | _ => none

inductive Same : Json → Json → Prop where
  | null : Same .null .null
  | number {a b : Json} {x : Rat} (left : a.number? = some x) (right : b.number? = some x) :
      Same a b
  | infinite (negative : Bool) : Same (.float (.infinite negative)) (.float (.infinite negative))
  | str (s : String) : Same (.str s) (.str s)
  | arr {items others : List Json} (length : items.length = others.length)
      (each : ∀ entry ∈ items.zip others, Same entry.1 entry.2) : Same (.arr items) (.arr others)
  | obj {fields others : Fields} (keys : ∀ key, key ∈ Ledger.keys fields ↔ key ∈ Ledger.keys others)
      (values : ∀ key v w, (key, v) ∈ fields → (key, w) ∈ others → Same v w) :
      Same (.obj fields) (.obj others)

/-- Objects that have each key once are compared by what they hold under each key. -/
theorem same_obj_iff {fields others : Fields} (hfields : (Ledger.keys fields).Nodup)
    (hothers : (Ledger.keys others).Nodup) :
    Same (.obj fields) (.obj others) ↔
      ∀ key, Option.Rel Same (Ledger.get? key fields) (Ledger.get? key others) := by
  constructor
  · intro h key
    cases h with
    | number left => cases left
    | obj keys values =>
      cases hv : Ledger.get? key fields with
      | none =>
        have habsent : Ledger.get? key others = none := by
          rw [Ledger.get?_eq_none_iff, ← keys, ← Ledger.get?_eq_none_iff, hv]
        rw [habsent]
        exact .none
      | some v =>
        cases hw : Ledger.get? key others with
        | none =>
          rw [Ledger.get?_eq_none_iff, ← keys, ← Ledger.get?_eq_none_iff, hv] at hw
          cases hw
        | some w => exact .some (values key v w (Ledger.mem_of_get? hv) (Ledger.mem_of_get? hw))
  · intro h
    refine .obj (fun key => ?_) fun key v w hv hw => ?_
    · have hkey := h key
      rw [Ledger.mem_keys_iff, Ledger.mem_keys_iff, Ledger.has, Ledger.has]
      generalize Ledger.get? key fields = held at hkey ⊢
      generalize Ledger.get? key others = held' at hkey ⊢
      cases hkey <;> simp
    · have hkey := h key
      rw [Ledger.get?_of_mem hfields hv, Ledger.get?_of_mem hothers hw] at hkey
      cases hkey with
      | some hsame => exact hsame

theorem same_obj_self {fields : Fields} (hkeys : (Ledger.keys fields).Nodup)
    (h : ∀ entry ∈ fields, Same entry.2 entry.2) : Same (.obj fields) (.obj fields) := by
  refine .obj (fun _ => Iff.rfl) fun key v w hv hw => ?_
  have hvalue : some v = some w :=
    (Ledger.get?_of_mem hkeys hv).symm.trans (Ledger.get?_of_mem hkeys hw)
  obtain rfl := Option.some.inj hvalue
  exact h (key, v) hv

theorem Same.eq_obj {a : Json} {others : Fields} (h : Same a (.obj others)) :
    ∃ fields, a = .obj fields := by
  cases h with
  | number _ right => cases right
  | obj => exact ⟨_, rfl⟩

mutual

def depth : Json → Nat
  | .arr items => depthOfItems items + 1
  | .obj fields => depthOfFields fields + 1
  | _ => 0

def depthOfItems : List Json → Nat
  | [] => 0
  | item :: rest => max item.depth (depthOfItems rest)

def depthOfFields : List (String × Json) → Nat
  | [] => 0
  | (_, value) :: rest => max value.depth (depthOfFields rest)

end

theorem depthOfItems_le_iff {items : List Json} {n : Nat} :
    depthOfItems items ≤ n ↔ ∀ item ∈ items, item.depth ≤ n := by
  induction items with
  | nil => simp [depthOfItems]
  | cons item rest ih => rw [depthOfItems, Nat.max_le, ih, List.forall_mem_cons]

theorem depthOfFields_le_iff {fields : Fields} {n : Nat} :
    depthOfFields fields ≤ n ↔ ∀ entry ∈ fields, entry.2.depth ≤ n := by
  induction fields with
  | nil => simp [depthOfFields]
  | cons entry rest ih =>
    obtain ⟨key, value⟩ := entry
    rw [depthOfFields, Nat.max_le, ih, List.forall_mem_cons]

theorem depth_lt_of_mem_items {items : List Json} {item : Json} (h : item ∈ items) :
    item.depth < (Json.arr items).depth :=
  Nat.lt_succ_of_le (depthOfItems_le_iff.1 (Nat.le_refl _) item h)

theorem depth_lt_of_mem_fields {fields : Fields} {key : String} {value : Json}
    (h : (key, value) ∈ fields) : value.depth < (Json.obj fields).depth :=
  Nat.lt_succ_of_le (depthOfFields_le_iff.1 (Nat.le_refl _) _ h)

theorem depth_of_number {a : Json} {x : Rat} (h : a.number? = some x) : a.depth = 0 := by
  cases a with
  | arr | obj => cases h
  | _ => rfl

theorem depthOfItems_congr {items others : List Json}
    (h : List.Forall₂ (fun item other => item.depth = other.depth) items others) :
    depthOfItems items = depthOfItems others := by
  induction h with
  | nil => rfl
  | cons hfirst _ ih => rw [depthOfItems, depthOfItems, hfirst, ih]

theorem depthOfFields_mono {fields others : Fields}
    (h : ∀ key v, (key, v) ∈ fields → ∃ w, (key, w) ∈ others ∧ v.depth = w.depth) :
    depthOfFields fields ≤ depthOfFields others := by
  refine depthOfFields_le_iff.2 fun entry hentry => ?_
  obtain ⟨w, hw, hdepth⟩ := h entry.1 entry.2 hentry
  exact hdepth.trans_le (depthOfFields_le_iff.1 (Nat.le_refl _) _ hw)

theorem Same.depth_eq {a b : Json} (h : Same a b) : a.depth = b.depth := by
  induction h with
  | null | infinite | str => rfl
  | number left right => rw [depth_of_number left, depth_of_number right]
  | arr length _ ih =>
    rw [depth, depth, depthOfItems_congr (List.forall₂_iff_zip.2 ⟨length, fun hmem => ih _ hmem⟩)]
  | @obj fields others keys _ ih =>
    have hle : depthOfFields fields ≤ depthOfFields others := depthOfFields_mono fun key v hv => by
      obtain ⟨⟨_, w⟩, hw, rfl⟩ := List.mem_map.1 ((keys key).1 (List.mem_map_of_mem hv))
      exact ⟨w, hw, ih _ v w hv hw⟩
    have hge : depthOfFields others ≤ depthOfFields fields := depthOfFields_mono fun key w hw => by
      obtain ⟨⟨_, v⟩, hv, rfl⟩ := List.mem_map.1 ((keys key).2 (List.mem_map_of_mem hw))
      exact ⟨v, hv, (ih _ v w hv hw).symm⟩
    rw [depth, depth, Nat.le_antisymm hle hge]

end Json

end GlueCode
