import GlueCode.Launch
import GlueCode.Proofs.LowerCase
/-! # Catalogues over time

A history is the list of requests made to a catalogue that was empty at first, the latest first; a
refused request stands in it and changes nothing. A name that a catalogue lists leads to the offer
stored under it last, unless the name is also an alias. It becomes one in two ways only: an alias is
put over it by a registration that replaces, or the name is registered while it is an alias. -/
namespace GlueCode

inductive CatalogueRequest (α : Type) where
  | register (name : String) (offer : Option α) (aliases : List String) (replace : Bool)
  | unregister (name : String)
deriving DecidableEq, Repr

abbrev History (α : Type) := List (CatalogueRequest α)

namespace Catalogue

variable {α : Type}

def apply (c : Catalogue α) : CatalogueRequest α → Catalogue α
  | .register name offer aliases replace =>
    match c.register name offer aliases replace with
    | .ok next => next
    | .error _ => c
  | .unregister name => c.unregister name

def after : History α → Catalogue α
  | [] => {}
  | r :: earlier => (after earlier).apply r

/-- Whether a registration takes effect: it replaces, or neither its name nor an alias is in the
way. -/
def Admits (c : Catalogue α) (key : String) (aliases : List String) (replace : Bool) : Prop :=
  replace = true ∨ c.offers.has key = false ∧
    ∀ other ∈ aliasKeys key aliases, c.conflict? key other = none

instance (c : Catalogue α) (key : String) (aliases : List String) (replace : Bool) :
    Decidable (c.Admits key aliases replace) :=
  inferInstanceAs (Decidable (_ ∨ _ ∧ ∀ other ∈ _, _))

def stored? (c : Catalogue α) : CatalogueRequest α → Option (String × α)
  | .register name (some offer) aliases replace =>
    if c.Admits (Text.lower name) aliases replace then some (Text.lower name, offer) else none
  | _ => none

/-- What the last registration of `key` that took effect stored. -/
def lastStored (key : String) : History α → Option α
  | [] => none
  | r :: earlier =>
    match (after earlier).stored? r with
    | some (k, offer) => if k = key then some offer else lastStored key earlier
    | none => lastStored key earlier

def ForcesAlias (c : Catalogue α) (key : String) (r : CatalogueRequest α) : Prop :=
  ∃ name offer aliases, r = .register name (some offer) aliases true ∧
    c.offers.has key = true ∧ key ∈ aliasKeys (Text.lower name) aliases

def NamesAlias (c : Catalogue α) (key : String) (r : CatalogueRequest α) : Prop :=
  c.aliases.has key = true ∧ ∃ offer, c.stored? r = some (key, offer)

theorem findSome?_conflict {c : Catalogue α} {key : String} {keys : List String} :
    keys.findSome? (c.conflict? key) = none ↔ ∀ other ∈ keys, c.conflict? key other = none :=
  List.findSome?_eq_none_iff

theorem apply_of_admits {c : Catalogue α} {name : String} {offer : α} {aliases : List String}
    {replace : Bool} (h : c.Admits (Text.lower name) aliases replace) :
    c.apply (.register name (some offer) aliases replace) =
      c.store (Text.lower name) offer (aliasKeys (Text.lower name) aliases) := by
  rcases h with rfl | ⟨hfree, hclear⟩
  · rfl
  · cases replace with
    | true => rfl
    | false => simp [apply, register, hfree, findSome?_conflict.2 hclear]

theorem apply_of_not_admits {c : Catalogue α} {name : String} {offer : α} {aliases : List String}
    {replace : Bool} (h : ¬ c.Admits (Text.lower name) aliases replace) :
    c.apply (.register name (some offer) aliases replace) = c := by
  have hreplace : replace = false := by
    cases replace with
    | true => exact absurd (Or.inl rfl) h
    | false => rfl
  subst hreplace
  cases hfree : c.offers.has (Text.lower name) with
  | true => simp [apply, register, hfree]
  | false =>
    cases hclear : (aliasKeys (Text.lower name) aliases).findSome?
        (c.conflict? (Text.lower name)) with
    | some e => simp [apply, register, hfree, hclear]
    | none => exact absurd (Or.inr ⟨hfree, findSome?_conflict.1 hclear⟩) h

/-- What a request can do: store an offer with its aliases, remove a name, or nothing. -/
theorem apply_cases (c : Catalogue α) (r : CatalogueRequest α) :
    (∃ name offer aliases replace, r = .register name (some offer) aliases replace ∧
      c.Admits (Text.lower name) aliases replace ∧
      c.stored? r = some (Text.lower name, offer) ∧
      c.apply r = c.store (Text.lower name) offer (aliasKeys (Text.lower name) aliases)) ∨
    (∃ name, r = .unregister name ∧ c.stored? r = none ∧ c.apply r = c.unregister name) ∨
    (c.stored? r = none ∧ c.apply r = c) := by
  cases r with
  | register name offer? aliases replace =>
    cases offer? with
    | none => exact Or.inr (Or.inr ⟨rfl, rfl⟩)
    | some offer =>
      by_cases h : c.Admits (Text.lower name) aliases replace
      · exact Or.inl ⟨name, offer, aliases, replace, rfl, h, if_pos h, apply_of_admits h⟩
      · exact Or.inr (Or.inr ⟨if_neg h, apply_of_not_admits h⟩)
  | unregister name => exact Or.inr (Or.inl ⟨name, rfl, rfl, rfl⟩)

theorem get?_offers_store (c : Catalogue α) (key other : String) (offer : α)
    (keys : List String) :
    (c.store key offer keys).offers.get? other =
      if key = other then some offer else c.offers.get? other :=
  Ledger.get?_put c.offers key other offer

theorem get?_aliases_store (c : Catalogue α) (key other : String) (offer : α)
    (keys : List String) :
    (c.store key offer keys).aliases.get? other =
      if other ∈ keys then some key else c.aliases.get? other := by
  unfold store
  dsimp only
  generalize c.aliases = l
  induction keys generalizing l with
  | nil => simp
  | cons k keys ih =>
    rw [List.foldl_cons, ih, Ledger.get?_put]
    by_cases hk : other ∈ keys
    · simp [hk]
    · simp [hk, eq_comm]

theorem get?_offers_unregister (c : Catalogue α) (name other : String) :
    (c.unregister name).offers.get? other =
      if Text.lower name = other then none else c.offers.get? other :=
  Ledger.get?_erase c.offers (Text.lower name) other

theorem has_of_has_filter {l : Ledger String String} {p : String × String → Bool} {key : String}
    (h : Ledger.has key (l.filter p) = true) : l.has key = true := by
  rw [← Ledger.mem_keys_iff] at h ⊢
  exact (List.filter_sublist.map Prod.fst).subset h

theorem has_iff {κ β : Type} [DecidableEq κ] {l : Ledger κ β} {key : κ} :
    l.has key = true ↔ ∃ v, l.get? key = some v := Option.isSome_iff_exists

theorem mem_names_iff {c : Catalogue α} {key : String} :
    key ∈ c.names ↔ c.offers.has key = true := by
  rw [names, sorted, List.mem_mergeSort, Ledger.mem_keys_iff]

theorem not_mem_aliasKeys (key : String) (aliases : List String) :
    key ∉ aliasKeys key aliases := by
  simp [aliasKeys]

theorem listed_is_lower {history : History α} {key : String}
    (h : (after history).offers.has key = true) : Text.lower key = key := by
  induction history with
  | nil => simp [after, Ledger.has] at h
  | cons r earlier ih =>
    rw [has_iff] at h ih
    rcases apply_cases (after earlier) r with
      ⟨name, offer, aliases, replace, _, _, _, happly⟩ | ⟨name, _, _, happly⟩ | ⟨_, happly⟩
    · rw [after, happly, get?_offers_store] at h
      split at h
      · next hk => rw [← hk, Text.lower_lower]
      · exact ih h
    · rw [after, happly, get?_offers_unregister] at h
      split at h
      · simp at h
      · exact ih h
    · rw [after, happly] at h
      exact ih h

theorem listed_holds_last {history : History α} {key : String}
    (h : (after history).offers.has key = true) :
    ∃ offer, (after history).offers.get? key = some offer ∧
      lastStored key history = some offer := by
  induction history with
  | nil => simp [after, Ledger.has] at h
  | cons r earlier ih =>
    rw [has_iff] at h ih
    rcases apply_cases (after earlier) r with
      ⟨name, offer, aliases, replace, _, _, hstored, happly⟩ | ⟨name, _, hstored, happly⟩ |
      ⟨hstored, happly⟩
    · rw [after, happly, get?_offers_store] at h ⊢
      rw [lastStored, hstored]
      by_cases hk : Text.lower name = key
      · exact ⟨offer, by simp [hk], by simp [hk]⟩
      · simp only [hk, if_false] at h ⊢
        exact ih h
    · rw [after, happly, get?_offers_unregister] at h ⊢
      rw [lastStored, hstored]
      split at h
      · simp at h
      · next hk =>
        simp only [hk, if_false]
        exact ih h
    · rw [after, happly] at h ⊢
      rw [lastStored, hstored]
      exact ih h

theorem hidden_by_request {history : History α} {key : String}
    (hlisted : (after history).offers.has key = true)
    (halias : (after history).aliases.has key = true) :
    ∃ later r earlier, history = later ++ r :: earlier ∧
      ((after earlier).ForcesAlias key r ∨ (after earlier).NamesAlias key r) := by
  induction history with
  | nil => simp [after, Ledger.has] at hlisted
  | cons r earlier ih =>
    have hcons : (after earlier).offers.has key = true →
        (after earlier).aliases.has key = true → ∃ later r' earlier', r :: earlier =
          later ++ r' :: earlier' ∧
          ((after earlier').ForcesAlias key r' ∨ (after earlier').NamesAlias key r') := by
      intro ho ha
      obtain ⟨later, r', earlier', heq, hr⟩ := ih ho ha
      exact ⟨r :: later, r', earlier', by rw [heq, List.cons_append], hr⟩
    rcases apply_cases (after earlier) r with
      ⟨name, offer, aliases, replace, hr, hadmits, hstored, happly⟩ | ⟨name, _, _, happly⟩ |
      ⟨_, happly⟩
    · rw [after, happly, has_iff, get?_offers_store] at hlisted
      rw [after, happly, has_iff, get?_aliases_store] at halias
      by_cases hk : Text.lower name = key
      · have hnot : key ∉ aliasKeys (Text.lower name) aliases := by
          rw [hk]
          exact not_mem_aliasKeys key aliases
        simp only [hnot, if_false] at halias
        refine ⟨[], r, earlier, rfl, Or.inr ⟨has_iff.2 halias, offer, ?_⟩⟩
        rw [hstored, hk]
      · simp only [hk, if_false] at hlisted
        by_cases hm : key ∈ aliasKeys (Text.lower name) aliases
        · have hreplace : replace = true := by
            rcases hadmits with h | ⟨_, hclear⟩
            · exact h
            · have hconflict := hclear key hm
              simp [conflict?, has_iff.2 hlisted] at hconflict
          subst hreplace
          exact ⟨[], r, earlier, rfl, Or.inl ⟨name, offer, aliases, hr, has_iff.2 hlisted, hm⟩⟩
        · simp only [hm, if_false] at halias
          exact hcons (has_iff.2 hlisted) (has_iff.2 halias)
    · rw [after, happly, has_iff, get?_offers_unregister] at hlisted
      rw [after, happly] at halias
      split at hlisted
      · simp at hlisted
      · exact hcons (has_iff.2 hlisted) (has_of_has_filter halias)
    · rw [after, happly] at hlisted halias
      exact hcons hlisted halias

/-- In any case, a listed name that is no alias leads to the offer stored under it last. A listed
name is an alias only if a registration that replaces put the alias over it, or the name was
registered while it was an alias. -/
theorem listed_name_found (history : History α) (key : String)
    (h : key ∈ (after history).names) :
    ((after history).aliases.has key = false → ∀ name, Text.lower name = Text.lower key →
      ∃ offer, lastStored key history = some offer ∧ (after history).find name = .ok offer) ∧
    ((after history).aliases.has key = true → ∃ later r earlier, history = later ++ r :: earlier ∧
      ((after earlier).ForcesAlias key r ∨ (after earlier).NamesAlias key r)) := by
  rw [mem_names_iff] at h
  refine ⟨?_, hidden_by_request h⟩
  intro halias name hname
  obtain ⟨offer, hget, hlast⟩ := listed_holds_last h
  rw [listed_is_lower h] at hname
  have hnone : (after history).aliases.get? key = none := by
    simpa [Ledger.has] using halias
  exact ⟨offer, hlast, by simp [find, hname, hnone, hget]⟩

def keptName : History Offer :=
  [.unregister "Recorder", .register "Recorder" (some (.recorder {})) ["r"] false,
    .register "Stub" (some .wrapper) ["cpp-stub"] false]

theorem kept_name_found :
    "stub" ∈ (after keptName).names ∧ (after keptName).aliases.has "stub" = false ∧
    Text.lower "STUB" = Text.lower "stub" ∧
    ∃ offer, lastStored "stub" keptName = some offer ∧
      (after keptName).find "STUB" = .ok offer := by
  have hlisted : "stub" ∈ (after keptName).names := by decide +kernel
  have hfree : (after keptName).aliases.has "stub" = false := by decide +kernel
  have hcase : Text.lower "STUB" = Text.lower "stub" := by decide +kernel
  exact ⟨hlisted, hfree, hcase, (listed_name_found keptName "stub" hlisted).1 hfree "STUB" hcase⟩

def aliasForced : History Offer :=
  [.register "b" (some (.recorder {})) ["A"] true, .register "a" (some .wrapper) [] false]

def aliasNamed : History Offer :=
  [.register "y" (some (.recorder {})) [] false, .register "x" (some .wrapper) ["y"] false]

theorem alias_hides_name :
    ("a" ∈ (after aliasForced).names ∧ lastStored "a" aliasForced = some .wrapper ∧
      (after aliasForced).find "a" = .ok (.recorder {})) ∧
    ("y" ∈ (after aliasNamed).names ∧ lastStored "y" aliasNamed = some (.recorder {}) ∧
      (after aliasNamed).find "y" = .ok .wrapper) := by
  refine ⟨⟨mem_names_iff.2 ?_, ?_, rfl⟩, mem_names_iff.2 ?_, ?_, rfl⟩
  · decide +kernel
  · decide +kernel
  · decide +kernel
  · decide +kernel

end Catalogue

end GlueCode
