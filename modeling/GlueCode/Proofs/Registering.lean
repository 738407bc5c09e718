import GlueCode.Proofs.Aliases
/-! # Registering without replacing

A registration goes step by step: the name is looked up, the aliases are checked one after the
other, the offer is stored, and each alias is put over its name. The checks all come before the
first change, so a registration that is refused leaves the catalogue as it was. One that does not
replace takes nothing away: since every alias stands for a name that is there, no alias that was
there before can stand for the new name, and whatever was found before is still found. -/
namespace GlueCode

namespace Catalogue

variable {α : Type}

/-- Work on a catalogue that may be refused halfway; what it changed before that stays changed. -/
abbrev Work (α β : Type) := ExceptT CatalogueError (StateM (Catalogue α)) β

def checkAlias (key other : String) : Work α Unit := do
  match (← get).conflict? key other with
  | some e => throw e
  | none => return ()

def putAlias (key other : String) : Work α Unit :=
  modify fun c => { c with aliases := c.aliases.put other key }

def enter (key : String) (offer : α) (keys : List String) (replace : Bool) : Work α Unit := do
  unless replace do keys.forM (checkAlias key)
  modify fun c => { c with offers := c.offers.put key offer }
  keys.forM (putAlias key)

def registering (name : String) (offer? : Option α) (aliases : List String) (replace : Bool) :
    Work α Unit := do
  match offer? with
  | none => throw .notAnOffer
  | some offer =>
    let key := Text.lower name
    if (← get).offers.has key && !replace then return ()
    else enter key offer (aliasKeys key aliases) replace

theorem run_then {β : Type} (first : Work α Unit) (rest : Work α β) (c : Catalogue α) :
    (first >>= fun _ => rest).run c =
      match first.run c with
      | (.ok (), d) => rest.run d
      | (.error e, d) => (.error e, d) := by
  simp only [bind, ExceptT.bind, ExceptT.run, ExceptT.mk, StateT.bind]
  cases first c with
  | mk result d => cases result <;> rfl

theorem run_checkAlias (c : Catalogue α) (key other : String) :
    (checkAlias key other).run c =
      match c.conflict? key other with
      | some e => (.error e, c)
      | none => (.ok (), c) := by
  show (match c.conflict? key other with
    | some e => (throw e : Work α Unit)
    | none => pure ()).run c = _
  cases c.conflict? key other <;> rfl

theorem run_checkAliases (c : Catalogue α) (key : String) (keys : List String) :
    (keys.forM (checkAlias key)).run c =
      match keys.findSome? (c.conflict? key) with
      | some e => (.error e, c)
      | none => (.ok (), c) := by
  induction keys with
  | nil => rfl
  | cons other keys ih =>
    rw [show (other :: keys).forM (checkAlias (α := α) key) =
      (checkAlias key other >>= fun _ => keys.forM (checkAlias key)) from rfl, run_then,
      run_checkAlias, List.findSome?_cons]
    cases c.conflict? key other with
    | some e => rfl
    | none => exact ih

theorem run_putAliases (c : Catalogue α) (key : String) (keys : List String) :
    (keys.forM (putAlias key)).run c =
      (.ok (), { c with aliases := keys.foldl (fun l other => l.put other key) c.aliases }) := by
  induction keys generalizing c with
  | nil => rfl
  | cons other keys ih =>
    rw [show (other :: keys).forM (putAlias (α := α) key) =
      (putAlias key other >>= fun _ => keys.forM (putAlias key)) from rfl, run_then]
    exact ih _

theorem run_changes (c : Catalogue α) (key : String) (offer : α) (keys : List String) :
    (enter key offer keys true).run c = (.ok (), c.store key offer keys) :=
  run_putAliases { c with offers := c.offers.put key offer } key keys

theorem run_enter (c : Catalogue α) (key : String) (offer : α) (keys : List String) :
    (enter key offer keys false).run c =
      match keys.findSome? (c.conflict? key) with
      | some e => (.error e, c)
      | none => (.ok (), c.store key offer keys) := by
  rw [show enter key offer keys false =
    (keys.forM (checkAlias key) >>= fun _ => enter key offer keys true) from rfl, run_then,
    run_checkAliases]
  cases keys.findSome? (c.conflict? key) with
  | some e => rfl
  | none => exact run_changes c key offer keys

theorem run_registering (c : Catalogue α) (name : String) (offer? : Option α)
    (aliases : List String) (replace : Bool) :
    (registering name offer? aliases replace).run c =
      ((c.register name offer? aliases replace).map fun _ => (),
        c.apply (.register name offer? aliases replace)) := by
  cases offer? with
  | none => rfl
  | some offer =>
    show (if c.offers.has (Text.lower name) && !replace then pure ()
      else enter (Text.lower name) offer (aliasKeys (Text.lower name) aliases) replace :
        Work α Unit).run c = _
    cases replace with
    | true =>
      rw [Bool.not_true, Bool.and_false, if_neg Bool.false_ne_true, run_changes]
      rfl
    | false =>
      cases hthere : c.offers.has (Text.lower name) with
      | true =>
        rw [Bool.not_false, Bool.and_true, if_pos rfl]
        simp only [register, apply, hthere, Bool.false_eq_true, if_false, if_true]
        rfl
      | false =>
        rw [Bool.false_and, if_neg Bool.false_ne_true, run_enter]
        cases hclear : (aliasKeys (Text.lower name) aliases).findSome?
            (c.conflict? (Text.lower name)) with
        | some e => simp [register, apply, hthere, hclear, Except.map]
        | none => simp [register, apply, hthere, hclear, Except.map]

theorem apply_of_refused {c : Catalogue α} {name : String} {offer? : Option α}
    {aliases : List String} {replace : Bool} {e : CatalogueError}
    (h : c.register name offer? aliases replace = .error e) :
    c.apply (.register name offer? aliases replace) = c := by
  simp [apply, h]

theorem apply_of_accepted {c d : Catalogue α} {name : String} {offer? : Option α}
    {aliases : List String} {replace : Bool}
    (h : c.register name offer? aliases replace = .ok d) :
    c.apply (.register name offer? aliases replace) = d := by
  simp [apply, h]

theorem register_cases (c : Catalogue α) (name : String) (offer? : Option α)
    (aliases : List String) :
    (∃ e, c.register name offer? aliases false = .error e) ∨
    (c.offers.has (Text.lower name) = true ∧ c.register name offer? aliases false = .ok c) ∨
    ∃ offer, offer? = some offer ∧ c.offers.has (Text.lower name) = false ∧
      (∀ other ∈ aliasKeys (Text.lower name) aliases,
        c.conflict? (Text.lower name) other = none) ∧
      c.register name offer? aliases false =
        .ok (c.store (Text.lower name) offer (aliasKeys (Text.lower name) aliases)) := by
  cases offer? with
  | none => exact .inl ⟨.notAnOffer, rfl⟩
  | some offer =>
    cases hthere : c.offers.has (Text.lower name) with
    | true => exact .inr (.inl ⟨rfl, by simp [register, hthere]⟩)
    | false =>
      cases hclear : (aliasKeys (Text.lower name) aliases).findSome?
          (c.conflict? (Text.lower name)) with
      | some e => exact .inl ⟨e, by simp [register, hthere, hclear]⟩
      | none =>
        refine .inr (.inr ⟨offer, rfl, rfl, findSome?_conflict.1 hclear, ?_⟩)
        simp [register, hthere, hclear]

section

variable {c : Catalogue α} {key name : String} {offer : α} {keys : List String}

theorem conflict?_eq_none {other : String} (h : c.conflict? key other = none) :
    c.offers.has other = false ∧ ∀ target, c.aliases.get? other = some target → target = key := by
  unfold conflict? at h
  split at h
  · cases h
  · next hthere =>
    constructor
    · exact Bool.eq_false_iff.2 hthere
    · intro target halias
      by_cases hkey : target = key
      · exact hkey
      · simp [halias, hkey] at h

/-- A name that is supported is not among the aliases of a new name without a conflict: as an alias
it would have to stand for the new name, which is not there. -/
theorem Anchored.not_mem_keys (h : c.Anchored) (hfree : c.offers.has key = false)
    (hclear : ∀ other ∈ keys, c.conflict? key other = none) (hname : c.isSupported name = true) :
    Text.lower name ∉ keys := by
  intro hmem
  obtain ⟨hthere, halias⟩ := conflict?_eq_none (hclear _ hmem)
  rcases Bool.or_eq_true_iff.1 hname with hoffer | hother
  · rw [hthere] at hoffer
    cases hoffer
  · obtain ⟨target, htarget⟩ := has_iff.1 hother
    have hlisted : c.offers.has target = true := h _ (Ledger.mem_of_get? htarget)
    rw [halias target htarget, hfree] at hlisted
    cases hlisted

theorem meaning_store (hname : Text.lower name ∉ keys) :
    (c.store key offer keys).meaning name = c.meaning name := by
  rw [meaning, meaning, get?_aliases_store, if_neg hname]

theorem Anchored.find_store (h : c.Anchored) (hfree : c.offers.has key = false)
    (hclear : ∀ other ∈ keys, c.conflict? key other = none) (hname : c.isSupported name = true)
    (offer : α) : ∃ found, c.find name = .ok found ∧
      (c.store key offer keys).find name = .ok found := by
  have hmeaning := (h.isSupported_iff name).1 hname
  obtain ⟨found, hfound⟩ := has_iff.1 hmeaning
  have hne : key ≠ c.meaning name := by
    intro heq
    rw [← heq, hfree] at hmeaning
    cases hmeaning
  refine ⟨found, find_ok_iff.2 hfound, find_ok_iff.2 ?_⟩
  rw [meaning_store (h.not_mem_keys hfree hclear hname), get?_offers_store, if_neg hne, hfound]

theorem find_store_alias (h : Text.lower name ∈ keys) :
    (c.store key offer keys).find name = .ok offer := by
  rw [find_ok_iff, meaning, get?_aliases_store, if_pos h, Option.getD_some, get?_offers_store,
    if_pos rfl]

theorem find_store_name (hname : Text.lower name = key) (hkeys : key ∉ keys)
    (halias : c.aliases.has key = false) : (c.store key offer keys).find name = .ok offer := by
  have hnone : c.aliases.get? key = none := by simpa [Ledger.has] using halias
  rw [find_ok_iff, meaning, hname, get?_aliases_store, if_neg hkeys, hnone, Option.getD_none,
    get?_offers_store, if_pos rfl]

end

theorem sorted_eq_of_perm {l m : List String} (h : l.Perm m) : sorted l = sorted m := by
  have hordered : ∀ names : List String,
      (sorted names).Pairwise fun a b => decide (a ≤ b) = true := by
    intro names
    apply List.pairwise_mergeSort
    · intro a b c hab hbc
      exact decide_eq_true (String.le_trans (of_decide_eq_true hab) (of_decide_eq_true hbc))
    · intro a b
      simpa using String.le_total a b
  refine List.Perm.eq_of_pairwise ?_ (hordered l) (hordered m) ?_
  · intro a b _ _ hab hba
    exact String.le_antisymm (of_decide_eq_true hab) (of_decide_eq_true hba)
  · exact (List.mergeSort_perm l _).trans (h.trans (List.mergeSort_perm m _).symm)

theorem names_store {c : Catalogue α} {key : String} (hfree : c.offers.has key = false) (offer : α)
    (keys : List String) : (c.store key offer keys).names = sorted (key :: c.names) := by
  have hnew : key ∉ c.offers.keys := by
    rw [Ledger.mem_keys_iff, hfree]
    exact Bool.false_ne_true
  have hkeys : (c.store key offer keys).offers.keys = c.offers.keys ++ [key] :=
    (Ledger.keys_put c.offers key offer).trans (if_neg hnew)
  rw [names, hkeys]
  refine sorted_eq_of_perm ((List.perm_append_singleton key _).trans (.cons key ?_))
  exact (List.mergeSort_perm _ _).symm

/-- A registration that does not replace, whatever came before it. Refused, or for a name that is
there, it leaves the catalogue as it was; what was found before is found again, in any case; and when
it stores its offer, the name is the only one that is added to the list, and each alias leads to the
offer, unless the alias is the name itself, which may still be an alias of another name. -/
theorem registering_takes_nothing_away (history : History α) (name : String) (offer? : Option α)
    (aliases : List String) {answer : Except CatalogueError Unit} {next : Catalogue α}
    (h : (registering name offer? aliases false).run (after history) = (answer, next)) :
    ((∃ e, answer = .error e) ∨ Text.lower name ∈ (after history).names →
      next = after history) ∧
    (∀ other, (after history).isSupported other = true →
      ∃ found, (after history).find other = .ok found ∧ next.find other = .ok found) ∧
    (answer = .ok () → Text.lower name ∉ (after history).names →
      ∃ offer, offer? = some offer ∧
        next.offers = (after history).offers.put (Text.lower name) offer ∧
        next.names = sorted (Text.lower name :: (after history).names) ∧
        ∀ other ∈ name :: aliases, Text.lower other ≠ Text.lower name ∨
          (after history).aliases.has (Text.lower name) = false → next.find other = .ok offer) := by
  have hanchored := after_anchored history
  rw [run_registering] at h
  obtain ⟨hanswer, rfl⟩ := Prod.mk.inj h
  have hkept : ∀ other, (after history).isSupported other = true →
      ∃ found, (after history).find other = .ok found ∧ (after history).find other = .ok found := by
    intro other hother
    obtain ⟨found, hfound⟩ := has_iff.1 ((hanchored.isSupported_iff other).1 hother)
    exact ⟨found, find_ok_iff.2 hfound, find_ok_iff.2 hfound⟩
  rcases register_cases (after history) name offer? aliases with
    ⟨e, hrefused⟩ | ⟨hthere, hsame⟩ | ⟨offer, hoffer, hfree, hclear, hstored⟩
  · rw [apply_of_refused hrefused]
    refine ⟨fun _ => rfl, hkept, fun hok => ?_⟩
    rw [hok, hrefused] at hanswer
    cases hanswer
  · rw [apply_of_accepted hsame]
    refine ⟨fun _ => rfl, hkept, fun _ hnew => ?_⟩
    exact absurd (mem_names_iff.2 hthere) hnew
  · rw [apply_of_accepted hstored]
    refine ⟨?_, ?_, fun _ _ => ⟨offer, hoffer, rfl, names_store hfree offer _, ?_⟩⟩
    · rintro (⟨e, hrefused⟩ | hthere)
      · rw [hrefused, hstored] at hanswer
        cases hanswer
      · rw [mem_names_iff, hfree] at hthere
        cases hthere
    · intro other hother
      exact hanchored.find_store hfree hclear hother offer
    · intro other hmem hother
      by_cases hname : Text.lower other = Text.lower name
      · apply find_store_name hname (not_mem_aliasKeys _ aliases)
        exact hother.resolve_left (not_not_intro hname)
      · have hgiven : other ∈ aliases := by
          refine (List.mem_cons.1 hmem).resolve_left ?_
          rintro rfl
          exact hname rfl
        apply find_store_alias
        simp only [aliasKeys, List.mem_filter, List.mem_map, decide_eq_true_eq]
        exact ⟨⟨other, hgiven, rfl⟩, hname⟩

def aliasGiven : History Offer := [.register "x" (some .wrapper) ["y"] false]

def aliasTakenUp : Except CatalogueError Unit × Catalogue Offer :=
  (registering "Y" (some (.recorder {})) ["Z"] false).run (after aliasGiven)

theorem alias_taken_up_leads_on :
    (registering "Y" (some (.recorder {})) ["Z"] false).run (after aliasGiven) =
      (aliasTakenUp.1, aliasTakenUp.2) ∧
    aliasTakenUp.1 = .ok () ∧ Text.lower "Y" ∉ (after aliasGiven).names ∧
    aliasTakenUp.2.names = sorted (Text.lower "Y" :: (after aliasGiven).names) ∧
    aliasTakenUp.2.find "Z" = .ok (.recorder {}) ∧
    (after aliasGiven).isSupported "Y" = true ∧
    ∃ found, (after aliasGiven).find "Y" = .ok found ∧ aliasTakenUp.2.find "Y" = .ok found := by
  have hrun : (registering "Y" (some (.recorder {})) ["Z"] false).run (after aliasGiven) =
      (aliasTakenUp.1, aliasTakenUp.2) := rfl
  have hanswer : aliasTakenUp.1 = .ok () := rfl
  have hnew : Text.lower "Y" ∉ (after aliasGiven).names := by decide +kernel
  have hsupported : (after aliasGiven).isSupported "Y" = true := by decide +kernel
  have hother : Text.lower "Z" ≠ Text.lower "Y" := by decide +kernel
  obtain ⟨-, hkept, hstores⟩ := registering_takes_nothing_away aliasGiven "Y"
    (some (.recorder {})) ["Z"] hrun
  obtain ⟨offer, hoffer, -, hnames, hfound⟩ := hstores hanswer hnew
  obtain rfl := Option.some.inj hoffer
  exact ⟨hrun, hanswer, hnew, hnames, hfound "Z" (by simp) (.inl hother), hsupported,
    hkept "Y" hsupported⟩

end Catalogue

end GlueCode
