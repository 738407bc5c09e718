import GlueCode.Json.Reader
/-! # Keys that stand once

In a value that was read no object has a key twice: of two fields with one key, the later one takes
the place of the earlier. The induction is on the fuel of the reader, for values, items and fields
at once. -/
namespace GlueCode.Json

inductive KeyedOnce : Json → Prop where
  | null : KeyedOnce .null
  | bool (b : Bool) : KeyedOnce (.bool b)
  | int (n : Int) : KeyedOnce (.int n)
  | float (x : Number.Binary64) : KeyedOnce (.float x)
  | str (s : String) : KeyedOnce (.str s)
  | arr {items : List Json} (h : ∀ item ∈ items, KeyedOnce item) : KeyedOnce (.arr items)
  | obj {fields : Fields} (keys : (Ledger.keys fields).Nodup)
      (values : ∀ entry ∈ fields, KeyedOnce entry.2) : KeyedOnce (.obj fields)

theorem KeyedOnce.keys {fields : Fields} (h : KeyedOnce (.obj fields)) :
    (Ledger.keys fields).Nodup := by
  cases h with
  | obj keys => exact keys

theorem KeyedOnce.value {fields : Fields} (h : KeyedOnce (.obj fields)) {key : String}
    {value : Json} (hvalue : Ledger.get? key fields = some value) : KeyedOnce value := by
  cases h with
  | obj _ values => exact values _ (Ledger.mem_of_get? hvalue)

theorem KeyedOnce.put {fields : Fields} (h : KeyedOnce (.obj fields)) (key : String) {value : Json}
    (hvalue : KeyedOnce value) : KeyedOnce (.obj (Ledger.put key value fields)) := by
  cases h with
  | obj keys values =>
    refine .obj (Ledger.nodup_put keys key value) fun entry hentry => ?_
    rcases Ledger.mem_put hentry with rfl | hentry
    · exact hvalue
    · exact values entry hentry

theorem keyedOnce_of_readNumber {negative : Bool} {cs rest : List Char} {value : Json}
    (h : readNumber negative cs = .ok (value, rest)) : KeyedOnce value := by
  unfold readNumber at h
  extract_lets whole at h
  split at h
  · cases h
  · split at h
    split at h
    split at h
    · split at h
      · cases h
      · obtain ⟨rfl, -⟩ := Prod.mk.inj (Except.ok.inj h)
        exact .int _
    · obtain ⟨rfl, -⟩ := Prod.mk.inj (Except.ok.inj h)
      exact .float _

theorem keyedOnce_of_readConstant {cs rest : List Char} {value : Json}
    (h : readConstant cs = .ok (value, rest)) : KeyedOnce value := by
  unfold readConstant at h
  extract_lets constants at h
  have hconstants : ∀ entry ∈ constants, KeyedOnce entry.2 := by
    intro entry hentry
    simp only [constants, List.mem_cons, List.not_mem_nil, or_false] at hentry
    rcases hentry with rfl | rfl | rfl | rfl | rfl | rfl
    · exact .null
    · exact .bool true
    · exact .bool false
    · exact .float _
    · exact .float _
    · exact .float _
  split at h
  · next reading hreading =>
    obtain ⟨entry, hmem, hafter⟩ := List.exists_of_findSome?_eq_some hreading
    obtain ⟨after, -, rfl⟩ := Option.map_eq_some_iff.1 hafter
    obtain ⟨rfl, -⟩ := Prod.mk.inj (Except.ok.inj h)
    exact hconstants entry hmem
  · cases h

structure ReadsKeyedOnce (fuel : Nat) : Prop where
  value : ∀ {cs rest value}, readValue fuel cs = .ok (value, rest) → KeyedOnce value
  items : ∀ {cs rest items}, readItems fuel cs = .ok (items, rest) → ∀ item ∈ items, KeyedOnce item
  fields : ∀ {before cs rest fields}, KeyedOnce (.obj before) →
    readFields fuel before cs = .ok (fields, rest) → KeyedOnce (.obj fields)

theorem ok_of_map {ε α β : Type} {f : α → β} {x : Except ε α} {b : β}
    (h : x.map f = .ok b) : ∃ a, x = .ok a ∧ f a = b := by
  cases x with
  | error e => cases h
  | ok a => exact ⟨a, rfl, Except.ok.inj h⟩

variable {fuel : Nat} {cs rest : List Char}

theorem ReadsKeyedOnce.value_next (ih : ReadsKeyedOnce fuel) {value : Json}
    (h : readValue (fuel + 1) cs = .ok (value, rest)) : KeyedOnce value := by
  have hempty : KeyedOnce (.obj []) := .obj List.nodup_nil (by simp)
  unfold readValue at h
  split at h
  · obtain ⟨⟨s, rest⟩, -, hs⟩ := ok_of_map h
    obtain ⟨rfl, -⟩ := Prod.mk.inj hs
    exact .str s
  · split at h
    · obtain ⟨rfl, -⟩ := Prod.mk.inj (Except.ok.inj h)
      exact .arr (by simp)
    · obtain ⟨⟨items, rest⟩, hitems, hs⟩ := ok_of_map h
      obtain ⟨rfl, -⟩ := Prod.mk.inj hs
      exact .arr (ih.items hitems)
  · split at h
    · obtain ⟨rfl, -⟩ := Prod.mk.inj (Except.ok.inj h)
      exact hempty
    · obtain ⟨⟨fields, rest⟩, hfields, hs⟩ := ok_of_map h
      obtain ⟨rfl, -⟩ := Prod.mk.inj hs
      exact ih.fields hempty hfields
  · exact keyedOnce_of_readConstant h
  · exact keyedOnce_of_readNumber h
  · split at h
    · exact keyedOnce_of_readNumber h
    · exact keyedOnce_of_readConstant h
  · cases h

theorem ReadsKeyedOnce.items_next (ih : ReadsKeyedOnce fuel) {items : List Json}
    (h : readItems (fuel + 1) cs = .ok (items, rest)) : ∀ item ∈ items, KeyedOnce item := by
  unfold readItems at h
  simp only [bind, Except.bind] at h
  split at h
  · cases h
  · next first hfirst =>
    have hvalue := ih.value hfirst
    split at h
    · obtain ⟨rfl, -⟩ := Prod.mk.inj (Except.ok.inj h)
      simpa using hvalue
    · split at h
      · cases h
      · next others hothers =>
        obtain ⟨rfl, -⟩ := Prod.mk.inj (Except.ok.inj h)
        intro item hitem
        rcases List.mem_cons.1 hitem with rfl | hitem
        · exact hvalue
        · exact ih.items hothers item hitem
    · cases h

theorem ReadsKeyedOnce.fields_next (ih : ReadsKeyedOnce fuel) {before fields : Fields}
    (hbefore : KeyedOnce (.obj before))
    (h : readFields (fuel + 1) before cs = .ok (fields, rest)) : KeyedOnce (.obj fields) := by
  unfold readFields at h
  simp only [bind, Except.bind] at h
  split at h
  · split at h
    · cases h
    · next key hkey =>
      split at h
      · split at h
        · cases h
        · next first hfirst =>
          have hput := hbefore.put key.1 (ih.value hfirst)
          split at h
          · obtain ⟨rfl, -⟩ := Prod.mk.inj (Except.ok.inj h)
            exact hput
          · exact ih.fields hput h
          · cases h
      · cases h
  · cases h

theorem readsKeyedOnce (fuel : Nat) : ReadsKeyedOnce fuel := by
  induction fuel with
  | zero => constructor <;> intros <;> simp_all [readValue, readItems, readFields]
  | succ fuel ih => exact ⟨ih.value_next, ih.items_next, ih.fields_next⟩

theorem keyedOnce_of_read {s : String} {value : Json} (h : read s = .ok value) :
    KeyedOnce value := by
  unfold read readChars at h
  simp only [bind, Except.bind] at h
  split at h
  · cases h
  · next reading hreading =>
    split at h
    · obtain rfl := Except.ok.inj h
      exact (readsKeyedOnce _).value hreading
    · cases h

end GlueCode.Json
