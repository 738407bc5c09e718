/-! # Ordered dictionaries

A ledger is a list of keys with their values. `put` sets the value of a key where the key stands,
or adds the key at the end, so that keys stay in the order in which they first came in. What a
ledger holds is `get?`; each operation is described by what it does to it.
-/
namespace GlueCode

abbrev Ledger (κ α : Type) := List (κ × α)

namespace Ledger

variable {κ α : Type} [DecidableEq κ]

/-- The value of a key: the first one, should the key stand more than once. -/
def get? (key : κ) : Ledger κ α → Option α
  | [] => none
  | (k, v) :: rest => if k = key then some v else get? key rest

def put (key : κ) (value : α) : Ledger κ α → Ledger κ α
  | [] => [(key, value)]
  | (k, v) :: rest => if k = key then (key, value) :: rest else (k, v) :: put key value rest

def erase (key : κ) (l : Ledger κ α) : Ledger κ α := l.filter (·.1 ≠ key)

def keys (l : Ledger κ α) : List κ := l.map Prod.fst

def has (key : κ) (l : Ledger κ α) : Bool := (l.get? key).isSome

def merge (l overrides : Ledger κ α) : Ledger κ α :=
  overrides.foldl (fun acc (key, value) => put key value acc) l

@[simp] theorem get?_nil (key : κ) : get? key ([] : Ledger κ α) = none := rfl

@[simp] theorem get?_put (l : Ledger κ α) (key other : κ) (value : α) :
    get? other (put key value l) = if key = other then some value else get? other l := by
  induction l with
  | nil => simp [put, get?]
  | cons entry rest ih =>
    obtain ⟨k, v⟩ := entry
    by_cases hk : k = key
    · by_cases ho : key = other <;> simp_all [put, get?]
    · by_cases ho : k = other
      · subst ho; simp [put, get?, hk, Ne.symm hk]
      · simp [put, get?, hk, ho, ih]

@[simp] theorem get?_erase (l : Ledger κ α) (key other : κ) :
    get? other (erase key l) = if key = other then none else get? other l := by
  induction l with
  | nil => simp [erase, get?]
  | cons entry rest ih =>
    obtain ⟨k, v⟩ := entry
    by_cases hk : k = key
    · have he : erase key ((k, v) :: rest) = erase key rest := by simp [erase, hk]
      rw [he, ih]
      by_cases ho : key = other <;> simp_all [get?]
    · have he : erase key ((k, v) :: rest) = (k, v) :: erase key rest := by simp [erase, hk]
      rw [he, get?, ih]
      by_cases ho : k = other
      · subst ho; simp [get?, Ne.symm hk]
      · simp [get?, ho]

theorem mem_keys_iff {l : Ledger κ α} {key : κ} : key ∈ keys l ↔ has key l = true := by
  induction l with
  | nil => simp [keys, has]
  | cons entry rest ih =>
    obtain ⟨k, v⟩ := entry
    unfold keys has at ih ⊢
    by_cases hk : k = key
    · simp [get?, hk]
    · simp [get?, hk, Ne.symm hk, ih]

theorem get?_eq_none_iff {l : Ledger κ α} {key : κ} : get? key l = none ↔ key ∉ keys l := by
  rw [mem_keys_iff, has]
  cases get? key l <;> simp

theorem mem_of_get? {l : Ledger κ α} {key : κ} {value : α} (h : get? key l = some value) :
    (key, value) ∈ l := by
  induction l with
  | nil => simp at h
  | cons entry rest ih =>
    obtain ⟨k, v⟩ := entry
    by_cases hk : k = key
    · subst hk
      obtain rfl : v = value := by simpa [get?] using h
      exact List.mem_cons_self
    · exact List.mem_cons_of_mem _ (ih (by simpa [get?, hk] using h))

theorem get?_of_mem {l : Ledger κ α} (h : (keys l).Nodup) {key : κ} {value : α}
    (hmem : (key, value) ∈ l) : get? key l = some value := by
  induction l with
  | nil => cases hmem
  | cons entry rest ih =>
    obtain ⟨k, v⟩ := entry
    obtain ⟨hfresh, hrest⟩ := List.nodup_cons.1 h
    rcases List.mem_cons.1 hmem with hfirst | hmem
    · obtain ⟨rfl, rfl⟩ := Prod.mk.inj hfirst
      rw [get?, if_pos rfl]
    · have hne : k ≠ key := by
        rintro rfl
        exact hfresh (List.mem_map.2 ⟨_, hmem, rfl⟩)
      rw [get?, if_neg hne, ih hrest hmem]

theorem put_of_notMem {l : Ledger κ α} {key : κ} (h : key ∉ keys l) (value : α) :
    put key value l = l ++ [(key, value)] := by
  induction l with
  | nil => rfl
  | cons entry rest ih =>
    obtain ⟨k, v⟩ := entry
    obtain ⟨hne, hrest⟩ : key ≠ k ∧ key ∉ keys rest := by simpa [keys] using h
    rw [put, if_neg hne.symm, ih hrest]
    rfl

theorem mem_put {l : Ledger κ α} {key : κ} {value : α} {entry : κ × α}
    (h : entry ∈ put key value l) : entry = (key, value) ∨ entry ∈ l := by
  induction l with
  | nil => exact .inl (List.mem_singleton.1 h)
  | cons first rest ih =>
    obtain ⟨k, v⟩ := first
    rw [put] at h
    split at h
    · exact (List.mem_cons.1 h).imp_right (List.mem_cons_of_mem _)
    · rcases List.mem_cons.1 h with rfl | h
      · exact .inr List.mem_cons_self
      · exact (ih h).imp_right (List.mem_cons_of_mem _)

theorem keys_put (l : Ledger κ α) (key : κ) (value : α) :
    keys (put key value l) = if key ∈ keys l then keys l else keys l ++ [key] := by
  induction l with
  | nil => simp [put, keys]
  | cons entry rest ih =>
    obtain ⟨k, v⟩ := entry
    unfold keys at ih ⊢
    by_cases hk : k = key
    · simp [put, hk]
    · by_cases hmem : key ∈ rest.map Prod.fst
      · simp [put, hk, ih, hmem]
      · simp [put, hk, Ne.symm hk, ih, hmem]

theorem nodup_put {l : Ledger κ α} (h : (keys l).Nodup) (key : κ) (value : α) :
    (keys (put key value l)).Nodup := by
  rw [keys_put]
  split
  · exact h
  · next hmem =>
    refine List.nodup_append.2 ⟨h, by simp, fun a ha b hb => ?_⟩
    rw [List.mem_singleton.1 hb]
    rintro rfl
    exact hmem ha

theorem merge_cons (l : Ledger κ α) (key : κ) (value : α) (rest : Ledger κ α) :
    merge l ((key, value) :: rest) = merge (put key value l) rest := rfl

theorem mem_merge {l overrides : Ledger κ α} {entry : κ × α} (h : entry ∈ merge l overrides) :
    entry ∈ overrides ∨ entry ∈ l := by
  induction overrides generalizing l with
  | nil => exact .inr h
  | cons first rest ih =>
    rcases ih h with hrest | hput
    · exact .inl (List.mem_cons_of_mem _ hrest)
    · rcases mem_put hput with rfl | hold
      · exact .inl List.mem_cons_self
      · exact .inr hold

theorem nodup_merge {l : Ledger κ α} (h : (keys l).Nodup) (overrides : Ledger κ α) :
    (keys (merge l overrides)).Nodup := by
  induction overrides generalizing l with
  | nil => exact h
  | cons entry rest ih => exact ih (nodup_put h entry.1 entry.2)

theorem merge_eq_append {l overrides : Ledger κ α} (h : (keys (l ++ overrides)).Nodup) :
    merge l overrides = l ++ overrides := by
  induction overrides generalizing l with
  | nil => rw [List.append_nil]; rfl
  | cons entry rest ih =>
    obtain ⟨k, v⟩ := entry
    have hfresh : k ∉ keys l := by
      have happ : keys (l ++ (k, v) :: rest) = keys l ++ k :: keys rest := by simp [keys]
      rw [happ] at h
      exact fun hmem => (List.nodup_append.1 h).2.2 k hmem k List.mem_cons_self rfl
    rw [merge_cons, put_of_notMem hfresh, ih (by simpa using h), List.append_assoc]
    rfl

theorem get?_merge (l : Ledger κ α) {overrides : Ledger κ α} (h : (keys overrides).Nodup)
    (key : κ) : get? key (merge l overrides) = (get? key overrides).or (get? key l) := by
  induction overrides generalizing l with
  | nil => rfl
  | cons entry rest ih =>
    obtain ⟨k, v⟩ := entry
    obtain ⟨hfresh, hrest⟩ := List.nodup_cons.1 h
    rw [merge_cons, ih _ hrest, get?_put, get?]
    by_cases hk : k = key
    · subst hk
      have hnone : get? k rest = none := get?_eq_none_iff.2 hfresh
      simp [hnone]
    · simp [hk]

theorem get?_append (l m : Ledger κ α) (key : κ) :
    get? key (l ++ m) = (get? key l).or (get? key m) := by
  induction l with
  | nil => rfl
  | cons entry rest ih =>
    obtain ⟨k, v⟩ := entry
    by_cases hk : k = key <;> simp [get?, hk, ih]

theorem get?_filter (l : Ledger κ α) {p : κ → Bool} {key : κ} (h : p key = true) :
    get? key (l.filter fun entry => p entry.1) = get? key l := by
  induction l with
  | nil => rfl
  | cons entry rest ih =>
    obtain ⟨k, v⟩ := entry
    by_cases hk : k = key
    · subst hk
      simp [get?, h]
    · cases hp : p k <;> simp [get?, hk, hp, ih]

end Ledger

end GlueCode
