import GlueCode.Proofs.Catalogue
/-! # Where aliases lead

Every alias of a catalogue stands for a name that the catalogue lists: a registration puts its
aliases over a name that it has just stored, and a name that is unregistered takes all its aliases
with it. So one look at the aliases is enough to find an offer, and a name is supported just when an
offer is found under it. -/
namespace GlueCode

namespace Catalogue

variable {α : Type}

/-- Every alias stands for a name that is there. -/
def Anchored (c : Catalogue α) : Prop := ∀ entry ∈ c.aliases, c.offers.has entry.2 = true

def meaning (c : Catalogue α) (name : String) : String :=
  (c.aliases.get? (Text.lower name)).getD (Text.lower name)

theorem has_offers_store {c : Catalogue α} {key other : String} {offer : α}
    {keys : List String} :
    (c.store key offer keys).offers.has other = true ↔ other = key ∨ c.offers.has other = true := by
  rw [has_iff, has_iff, get?_offers_store]
  by_cases hk : key = other
  · simp [hk]
  · simp [hk, Ne.symm hk]

theorem has_offers_unregister {c : Catalogue α} {name other : String} :
    (c.unregister name).offers.has other = true ↔
      other ≠ Text.lower name ∧ c.offers.has other = true := by
  rw [has_iff, has_iff, get?_offers_unregister]
  by_cases hk : Text.lower name = other
  · simp [hk]
  · simp [hk, Ne.symm hk]

theorem mem_aliases_store {c : Catalogue α} {key : String} {offer : α} {keys : List String}
    {entry : String × String} (h : entry ∈ (c.store key offer keys).aliases) :
    entry.2 = key ∨ entry ∈ c.aliases := by
  unfold store at h
  dsimp only at h
  generalize c.aliases = l at h ⊢
  induction keys generalizing l with
  | nil => exact .inr h
  | cons k keys ih =>
    rw [List.foldl_cons] at h
    rcases ih (l.put k key) h with hkey | hput
    · exact .inl hkey
    · rcases Ledger.mem_put hput with rfl | hold
      · exact .inl rfl
      · exact .inr hold

theorem Anchored.store {c : Catalogue α} (h : c.Anchored) (key : String) (offer : α)
    (keys : List String) : (c.store key offer keys).Anchored := by
  intro entry hentry
  apply has_offers_store.2
  rcases mem_aliases_store hentry with hkey | hold
  · exact .inl hkey
  · exact .inr (h entry hold)

theorem Anchored.unregister {c : Catalogue α} (h : c.Anchored) (name : String) :
    (c.unregister name).Anchored := by
  intro entry hentry
  obtain ⟨hold, hkept⟩ := List.mem_filter.1 hentry
  apply has_offers_unregister.2
  constructor
  · exact of_decide_eq_true hkept
  · exact h entry hold

theorem Anchored.apply {c : Catalogue α} (h : c.Anchored) (r : CatalogueRequest α) :
    (c.apply r).Anchored := by
  rcases apply_cases c r with
    ⟨name, offer, aliases, replace, _, _, _, happly⟩ | ⟨name, _, _, happly⟩ | ⟨_, happly⟩
  · rw [happly]
    exact h.store _ _ _
  · rw [happly]
    exact h.unregister name
  · rw [happly]
    exact h

theorem after_anchored (history : History α) : (after history).Anchored := by
  induction history with
  | nil =>
    intro entry hentry
    cases hentry
  | cons r earlier ih => exact ih.apply r

theorem find_eq (c : Catalogue α) (name : String) :
    c.find name = match c.offers.get? (c.meaning name) with
      | some offer => .ok offer
      | none => .error (.unknown name c.names) := rfl

theorem find_ok_iff {c : Catalogue α} {name : String} {offer : α} :
    c.find name = .ok offer ↔ c.offers.get? (c.meaning name) = some offer := by
  rw [find_eq]
  cases c.offers.get? (c.meaning name) <;> simp

theorem Anchored.isSupported_iff {c : Catalogue α} (h : c.Anchored) (name : String) :
    c.isSupported name = true ↔ c.offers.has (c.meaning name) = true := by
  unfold isSupported meaning
  cases halias : c.aliases.get? (Text.lower name) with
  | none => simp [Ledger.has, halias]
  | some target =>
    have hlisted : c.offers.has target = true := h _ (Ledger.mem_of_get? halias)
    have hsupported : c.aliases.has (Text.lower name) = true := has_iff.2 ⟨target, halias⟩
    simp [hlisted, hsupported]

theorem Anchored.isSupported_eq_false_iff {c : Catalogue α} (h : c.Anchored) (name : String) :
    c.isSupported name = false ↔ c.find name = .error (.unknown name c.names) := by
  rw [← Bool.not_eq_true, h.isSupported_iff, find_eq, Ledger.has]
  cases c.offers.get? (c.meaning name) <;> simp

theorem aliasesOf_unregister (c : Catalogue α) {name other : String}
    (h : Text.lower other = Text.lower name) : (c.unregister name).aliasesOf other = [] := by
  have hnone : (c.unregister name).aliases.filter (·.2 = Text.lower other) = [] := by
    rw [unregister, List.filter_filter, List.filter_eq_nil_iff]
    intro entry _
    simp [h]
  rw [aliasesOf, hnone]
  simp [sorted, Ledger.keys]

/-- Every alias stands for a listed name, so that in any case a name is supported just when one look
at the aliases leads to an offer; and once a name is unregistered, in any case, it is not listed and
has no aliases. -/
theorem aliases_lead_to_names (history : History α) :
    (∀ entry ∈ (after history).aliases, entry.2 ∈ (after history).names) ∧
    (∀ name,
      ((after history).isSupported name = true ↔
        ∃ offer, (after history).find name = .ok offer) ∧
      ((after history).isSupported name = false ↔
        (after history).find name = .error (.unknown name (after history).names)) ∧
      ((after history).isSupported name = true →
        (after history).meaning name ∈ (after history).names)) ∧
    ∀ name other, Text.lower other = Text.lower name →
      other ∉ (after (.unregister name :: history)).names ∧
      (after (.unregister name :: history)).aliasesOf other = [] := by
  have hanchored := after_anchored history
  refine ⟨?_, ?_, ?_⟩
  · intro entry hentry
    exact mem_names_iff.2 (hanchored entry hentry)
  · intro name
    refine ⟨?_, hanchored.isSupported_eq_false_iff name, ?_⟩
    · rw [hanchored.isSupported_iff, has_iff]
      simp only [find_ok_iff]
    · intro hsupported
      exact mem_names_iff.2 ((hanchored.isSupported_iff name).1 hsupported)
  · intro name other hname
    constructor
    · intro hlisted
      have hhas := mem_names_iff.1 hlisted
      have hlower := listed_is_lower hhas
      exact (has_offers_unregister.1 hhas).1 (hlower.symm.trans hname)
    · exact aliasesOf_unregister (after history) hname

theorem forced_alias_leads_on :
    ("a", "b") ∈ (after aliasForced).aliases ∧ "b" ∈ (after aliasForced).names ∧
    (after aliasForced).meaning "A" ∈ (after aliasForced).names ∧
    Text.lower "b" = Text.lower "B" ∧ "b" ∉ (after (.unregister "B" :: aliasForced)).names ∧
    (after (.unregister "B" :: aliasForced)).aliasesOf "b" = [] := by
  obtain ⟨hlisted, hfound, hgone⟩ := aliases_lead_to_names aliasForced
  have halias : ("a", "b") ∈ (after aliasForced).aliases := by decide +kernel
  have hsupported : (after aliasForced).isSupported "A" = true := by decide +kernel
  have hcase : Text.lower "b" = Text.lower "B" := by decide +kernel
  obtain ⟨hname, hnone⟩ := hgone "B" "b" hcase
  exact ⟨halias, hlisted _ halias, (hfound "A").2.2 hsupported, hcase, hname, hnone⟩

end Catalogue

end GlueCode
