import GlueCode.Output
import GlueCode.Proofs.DiskTree
/-! # What closing an output does to a disk

On a tree, closing an output with a path without double dots makes the directories on the way that
can be made, and then writes the file where it can be written and does not hold the text yet. What
is neither the file nor on the way to it stays as it was. -/
namespace GlueCode

namespace Disk

variable {d : Disk}

@[simp] theorem home_put (loc : Location) (node : Node) : (d.put loc node).home = d.home := rfl

theorem IsTree.put (h : d.IsTree) {front : Location} {c : String} {node : Node}
    (hfront : d.get? front = some .directory)
    (hc : d.get? (front ++ [c]) ≠ some .directory) : (d.put (front ++ [c]) node).IsTree where
  home := by
    have hne : front ++ [c] ≠ d.home := fun heq => hc (heq ▸ h.home)
    rw [home_put, get?_put, if_neg hne, h.home]
  parent := by
    intro loc x hx
    rw [get?_put] at hx
    have hloc : d.get? loc = some .directory := by
      split at hx
      · next heq =>
        obtain ⟨rfl, -⟩ := List.append_inj' heq rfl
        exact hfront
      · exact h.parent hx
    have hne : front ++ [c] ≠ loc := fun heq => hc (heq ▸ hloc)
    rw [get?_put, if_neg hne, hloc]

/-- The disk after the directories on the way to `loc` were made as far as they can be. -/
structure Paved (d : Disk) (loc : Location) (paved : Disk) : Prop where
  home : paved.home = d.home
  tree : paved.IsTree
  made : ∀ other, other <+: loc → d.Creatable other → paved.get? other = some .directory
  kept : ∀ other, ¬(other <+: loc ∧ d.Creatable other) → paved.get? other = d.get? other

theorem Paved.refl (h : d.IsTree) {loc : Location}
    (hloc : ∀ other, other <+: loc → ¬d.Creatable other) : Paved d loc d where
  home := rfl
  tree := h
  made other hp hc := absurd hc (hloc other hp)
  kept _ _ := rfl

theorem Paved.extend (h : d.IsTree) {loc : Location} {c : String} {paved : Disk}
    (hp : d.Paved loc paved) (hloc : paved.get? loc = some .directory)
    (hc : d.Creatable (loc ++ [c])) :
    d.Paved (loc ++ [c]) (paved.put (loc ++ [c]) .directory) where
  home := hp.home
  tree := by
    refine hp.tree.put hloc ?_
    rw [hp.kept _ fun hpre => not_concat_prefix hpre.1, hc.absent h]
    simp
  made := by
    intro other hother hcreatable
    rw [get?_put]
    split
    · rfl
    · next hne =>
      rcases List.prefix_concat_iff.1 hother with heq | hother
      · exact absurd heq.symm hne
      · exact hp.made other hother hcreatable
  kept := by
    intro other hother
    have hne : loc ++ [c] ≠ other := by
      rintro rfl
      exact hother ⟨List.prefix_rfl, hc⟩
    rw [get?_put, if_neg hne]
    exact hp.kept other fun hpre => hother ⟨hpre.1.trans (List.prefix_append _ _), hpre.2⟩

theorem Paved.stuck {loc : Location} {c : String} {paved : Disk} (hp : d.Paved loc paved)
    (hc : ¬d.Creatable (loc ++ [c])) : d.Paved (loc ++ [c]) paved where
  home := hp.home
  tree := hp.tree
  made := by
    intro other hother hcreatable
    rcases List.prefix_concat_iff.1 hother with rfl | hother
    · exact absurd hcreatable hc
    · exact hp.made other hother hcreatable
  kept := by
    intro other hother
    exact hp.kept other fun hpre => hother ⟨hpre.1.trans (List.prefix_append _ _), hpre.2⟩

theorem Paved.of_exists (h : d.IsTree) {loc : Location} (hloc : d.get? loc ≠ none) :
    d.Paved loc d :=
  .refl h fun _ hp hc => hloc (h.none_of_prefix hp (hc.absent h))

theorem Paved.of_file (h : d.IsTree) {loc below : Location} {bytes : ByteArray}
    (hfile : d.get? loc = some (.file bytes)) : d.Paved (loc ++ below) d := by
  refine .refl h fun other hp hc => ?_
  rcases List.prefix_or_prefix_of_prefix hp (List.prefix_append loc below) with hle | hle
  · have hgone := h.none_of_prefix hle (hc.absent h)
    simp [hgone] at hfile
  · exact not_creatable_of_file h hfile hle hc

theorem locate_next (h : d.IsTree) {root : Root} {front : List String} {c : String}
    (hplain : ".." ∉ front ++ [c]) (hfits : Path.fits ⟨root, front ++ [c]⟩ = true)
    (hfront : d.get? (d.start ⟨root, []⟩ ++ front) = some .directory)
    (hshort : front.all Path.fitsComponent = true) :
    d.locate ⟨root, front ++ [c]⟩ =
      if Path.fitsComponent c then .ok (d.start ⟨root, []⟩ ++ front ++ [c])
      else .error .tooLong := by
  have hstart : d.start ⟨root, front ++ [c]⟩ = d.start ⟨root, []⟩ := rfl
  have hdir : d.get? (d.start ⟨root, []⟩ ++ (front ++ [c]).dropLast) = some .directory := by
    simpa using hfront
  rw [locate_of_fits hfits, hstart, walk_ok h hplain hdir, List.all_append, hshort]
  simp

theorem ensureDirectory_next (h : d.IsTree) {root : Root} {front : List String} {c : String}
    (hplain : ".." ∉ front ++ [c]) (hfits : Path.fits ⟨root, front ++ [c]⟩ = true)
    (hfront : d.get? (d.start ⟨root, []⟩ ++ front) = some .directory)
    (hshort : front.all Path.fitsComponent = true)
    (hnone : d.get? (d.start ⟨root, []⟩ ++ front ++ [c]) = none) :
    d.ensureDirectory ⟨root, front ++ [c]⟩ =
      if Path.fitsComponent c then
        (d.put (d.start ⟨root, []⟩ ++ front ++ [c]) .directory, true)
      else (d, false) := by
  have hlocate := locate_next h hplain hfits hfront hshort
  cases hc : Path.fitsComponent c with
  | false =>
    rw [hc] at hlocate
    simp [ensureDirectory, makeDirectory, isDirectory, node?, hlocate, bind, Except.bind]
  | true =>
    rw [hc, if_pos rfl] at hlocate
    simp only [ensureDirectory, makeDirectory, hlocate, bind, Except.bind, hnone, if_true]

theorem makeDirectory_missing (h : d.IsTree) {root : Root} {front rest : List String} {c x : String}
    (hplain : ".." ∉ front ++ c :: rest)
    (hfits : Path.fits ⟨root, front ++ c :: rest ++ [x]⟩ = true)
    (hfront : d.get? (d.start ⟨root, []⟩ ++ front) = some .directory)
    (hshort : front.all Path.fitsComponent = true) (hc : Path.fitsComponent c = true)
    (hnone : d.get? (d.start ⟨root, []⟩ ++ front ++ [c]) = none) :
    d.makeDirectory ⟨root, front ++ c :: rest ++ [x]⟩ = .error .missing := by
  obtain ⟨next, tail, hnext⟩ := List.exists_cons_of_ne_nil (l := rest ++ [x]) (by simp)
  have hlong : front ++ c :: rest ++ [x] = front ++ c :: next :: tail := by simp [← hnext]
  have hplain' : ".." ∉ front ++ [c] := by simp_all
  have hne : d.get? (d.start ⟨root, []⟩ ++ front ++ [c]) ≠ some .directory := by
    rw [hnone]
    simp
  have hall : (front ++ [c]).all Path.fitsComponent = true := by
    rw [List.all_append, hshort]
    simp [hc]
  have hlocate : d.locate ⟨root, front ++ c :: rest ++ [x]⟩ = .error .missing := by
    rw [locate_of_fits hfits, hlong]
    exact (walk_blocked h hplain' hfront hne).trans (by rw [if_pos hall, if_pos hnone])
  rw [makeDirectory, hlocate]
  rfl

theorem Paved.ensureDirectory (h : d.IsTree) {root : Root} {front : List String} {c : String}
    {paved : Disk} (hp : d.Paved (d.start ⟨root, []⟩ ++ front) paved)
    (hplain : ".." ∉ front ++ [c]) (hfits : Path.fits ⟨root, front ++ [c]⟩ = true)
    (hshort : front.all Path.fitsComponent = true)
    (hfront : d.Creatable (d.start ⟨root, []⟩ ++ front)) :
    d.Paved (d.start ⟨root, []⟩ ++ front ++ [c]) (paved.ensureDirectory ⟨root, front ++ [c]⟩).1 ∧
      ((paved.ensureDirectory ⟨root, front ++ [c]⟩).2 = true ↔
        d.Creatable (d.start ⟨root, []⟩ ++ front ++ [c])) := by
  have hstart : paved.start ⟨root, []⟩ = d.start ⟨root, []⟩ := start_of_home hp.home _
  have hdir := hp.made _ List.prefix_rfl hfront
  have hfree : paved.get? (d.start ⟨root, []⟩ ++ front ++ [c]) = none := by
    rw [hp.kept _ fun hpre => not_concat_prefix hpre.1]
    exact h.none_of_prefix (List.prefix_append _ _) (hfront.absent h)
  have hensure := ensureDirectory_next hp.tree hplain hfits (hstart ▸ hdir) hshort (hstart ▸ hfree)
  rw [hstart] at hensure
  rw [hensure]
  by_cases hc : Path.fitsComponent c
  · have hlast := creatable_concat.2 ⟨hc, .inr hfront⟩
    rw [if_pos hc]
    exact ⟨hp.extend h hdir hlast, by simpa using hlast⟩
  · have hstuck : ¬d.Creatable (d.start ⟨root, []⟩ ++ front ++ [c]) :=
      fun hcreatable => hc (creatable_concat.1 hcreatable).1
    rw [if_neg hc]
    exact ⟨hp.stuck hstuck, by simpa using hstuck⟩

theorem ensureDirectories_paves (h : d.IsTree) {root : Root} {front rest : List String} {c : String}
    (hplain : ".." ∉ front ++ c :: rest) (hfits : Path.fits ⟨root, front ++ c :: rest⟩ = true)
    (hfront : d.get? (d.start ⟨root, []⟩ ++ front) = some .directory)
    (hshort : front.all Path.fitsComponent = true) (hc : Path.fitsComponent c = true)
    (hnone : d.get? (d.start ⟨root, []⟩ ++ front ++ [c]) = none) :
    d.Paved (d.start ⟨root, []⟩ ++ (front ++ c :: rest))
        (d.ensureDirectories root (front ++ c :: rest).reverse).1 ∧
      ((d.ensureDirectories root (front ++ c :: rest).reverse).2 = true ↔
        d.Creatable (d.start ⟨root, []⟩ ++ (front ++ c :: rest))) := by
  induction rest using List.reverseRecOn with
  | nil =>
    have hlocate := locate_next h hplain hfits hfront hshort
    have hlast : d.Creatable (d.start ⟨root, []⟩ ++ front ++ [c]) :=
      creatable_concat.2 ⟨hc, .inl ⟨hfront, hnone⟩⟩
    have hback : (c :: front.reverse).reverse = front ++ [c] := by simp
    have hmake : d.makeDirectory ⟨root, front ++ [c]⟩ =
        .ok (d.put (d.start ⟨root, []⟩ ++ front ++ [c]) .directory) := by
      rw [hc, if_pos rfl] at hlocate
      simp only [makeDirectory, hlocate, bind, Except.bind, hnone]
    rw [List.reverse_append, List.reverse_singleton, List.singleton_append, ensureDirectories,
      hback, hmake, ← List.append_assoc]
    exact ⟨(Paved.of_exists h (by simp [hfront])).extend h hfront hlast, by simpa using hlast⟩
  | append_singleton rest x ih =>
    have hlong : front ++ c :: (rest ++ [x]) = front ++ c :: rest ++ [x] := by simp
    rw [hlong] at hplain hfits ⊢
    have hplain' : ".." ∉ front ++ c :: rest := fun hm => hplain (List.mem_append_left _ hm)
    have hmake := makeDirectory_missing h hplain' hfits hfront hshort hc hnone
    obtain ⟨hpaved, hdone⟩ := ih hplain' (Path.fits_of_append hfits)
    have hback : (x :: (front ++ c :: rest).reverse).reverse = front ++ c :: rest ++ [x] := by
      simp
    rw [List.reverse_append, List.reverse_singleton, List.singleton_append, ensureDirectories,
      hback, hmake, ← List.append_assoc]
    generalize d.ensureDirectories root (front ++ c :: rest).reverse = result at hpaved hdone ⊢
    obtain ⟨paved, done⟩ := result
    cases done with
    | false =>
      have hgone : d.get? (d.start ⟨root, []⟩ ++ (front ++ c :: rest)) = none :=
        h.none_of_prefix ⟨rest, by simp⟩ hnone
      have hstuck : ¬d.Creatable (d.start ⟨root, []⟩ ++ (front ++ c :: rest) ++ [x]) := by
        intro hcreatable
        obtain ⟨-, ⟨hdir, -⟩ | hfirst⟩ := creatable_concat.1 hcreatable
        · simp [hgone] at hdir
        · simpa using hdone.2 hfirst
      exact ⟨hpaved.stuck hstuck, by simpa using hstuck⟩
    | true =>
      have hfirst := hdone.1 rfl
      have hall : (front ++ c :: rest).all Path.fitsComponent = true := by
        have hrest := Creatable.fits h hnone
          (List.append_assoc (d.start ⟨root, []⟩) front (c :: rest) ▸ hfirst)
        rw [List.all_append, hshort]
        exact List.all_eq_true.2 hrest
      exact hpaved.ensureDirectory h hplain hfits hall hfirst

theorem makeDirectories_of_error {p : Path} {e : DiskFailure} (hne : p.components ≠ [])
    (hlocate : d.locate p = .error e) (he : e ≠ .missing) : d.makeDirectories p = (d, false) := by
  obtain ⟨root, cs⟩ := p
  rcases List.eq_nil_or_concat cs with rfl | ⟨front, c, rfl⟩
  · exact absurd rfl hne
  · have hback : (c :: front.reverse).reverse = front ++ [c] := by simp
    have hmake : d.makeDirectory ⟨root, front ++ [c]⟩ = .error e := by
      rw [makeDirectory, ← List.concat_eq_append, hlocate]; rfl
    have hdir : d.isDirectory ⟨root, front ++ [c]⟩ = false := by
      rw [isDirectory, node?, ← List.concat_eq_append, hlocate]
    simp only [makeDirectories, List.concat_eq_append, List.reverse_append, List.reverse_singleton,
      List.singleton_append, ensureDirectories, hback, hmake, hdir]

theorem makeDirectories_paves (h : d.IsTree) {p : Path} (hplain : ".." ∉ p.components)
    (hlocate : d.locate p ≠ .error .tooLong) (hnone : d.get? (d.place p) = none) :
    d.Paved (d.place p) (d.makeDirectories p).1 ∧
      ((d.makeDirectories p).2 = true ↔ d.Creatable (d.place p)) := by
  have hleads := locate_leads h hplain
  generalize hresult : d.locate p = result at hleads hlocate
  obtain ⟨root, cs⟩ := p
  cases hleads with
  | refused => exact absurd rfl hlocate
  | found hfits hshort hdir =>
    rcases List.eq_nil_or_concat cs with rfl | ⟨front, c, rfl⟩
    · have hstart := h.start ⟨root, []⟩
      simp [place] at hnone
      simp [hnone] at hstart
    · rw [List.concat_eq_append] at *
      have hfront : d.get? (d.start ⟨root, []⟩ ++ front) = some .directory := by
        rw [List.dropLast_concat] at hdir
        exact hdir
      have hc : d.get? (d.start ⟨root, []⟩ ++ front ++ [c]) = none := by
        rw [List.append_assoc]
        exact hnone
      obtain ⟨hfr, hlast⟩ : front.all Path.fitsComponent = true ∧
          Path.fitsComponent c = true := by simpa using hshort
      exact ensureDirectories_paves h hplain hfits hfront hfr hlast hc
  | @blocked front c next rest hfits hway hshort hfront hc =>
    obtain rfl : cs = front ++ c :: next :: rest := hway
    obtain ⟨hfr, hlast⟩ : front.all Path.fitsComponent = true ∧
        Path.fitsComponent c = true := by simpa using hshort
    cases hx : d.get? (d.start ⟨root, []⟩ ++ front ++ [c]) with
    | none => exact ensureDirectories_paves h hplain hfits hfront hfr hlast hx
    | some node =>
      cases node with
      | directory => exact absurd hx hc
      | file bytes =>
        have hplace : d.place ⟨root, front ++ c :: next :: rest⟩ =
            (d.start ⟨root, []⟩ ++ front ++ [c]) ++ next :: rest := by simp [place, start]
        have hmake : d.makeDirectories ⟨root, front ++ c :: next :: rest⟩ = (d, false) := by
          have hsome : d.get? (d.start ⟨root, []⟩ ++ front ++ [c]) ≠ none := by
            rw [hx]; simp
          refine makeDirectories_of_error (by simp) (hresult.trans (congrArg _ (if_neg hsome)))
            ?_
          simp
        rw [hmake, hplace]
        exact ⟨.of_file h hx, by simpa using not_creatable_of_file h hx (List.prefix_append _ _)⟩

theorem prepareParent_paves (h : d.IsTree) {p : Path} (hplain : ".." ∉ p.components) {b : Bool}
    (hb : (d.prepareParent p).written = .ok b) :
    d.Paved (d.place p.parent) (d.prepareParent p).disk ∧
      (b = true ↔ (d.prepareParent p).disk.get? (d.place p.parent) ≠ none) := by
  have hplain' : ".." ∉ p.parent.components := fun hm => hplain ((List.dropLast_subset _) hm)
  unfold prepareParent at hb ⊢
  by_cases hname : p.parent.isNameable = true
  · cases hhas : d.has p.parent with
    | error e => simp [hhas] at hb
    | ok there =>
      obtain ⟨hlocate, hthere⟩ := has_ok h hplain' hname hhas
      cases there with
      | true =>
        obtain rfl : true = b := by simpa [hhas] using hb
        have hsome := hthere.1 rfl
        simp only [hhas]
        exact ⟨.of_exists h hsome, by simpa using hsome⟩
      | false =>
        have hnone : d.get? (d.place p.parent) = none := by
          by_contra hsome
          simpa using hthere.2 hsome
        obtain ⟨hpaved, hdone⟩ := makeDirectories_paves h hplain' hlocate hnone
        simp only [hhas, hname, Bool.not_true, Bool.false_eq_true, if_false] at hb ⊢
        generalize d.makeDirectories p.parent = result at hb hpaved hdone ⊢
        obtain ⟨paved, done⟩ := result
        cases done with
        | true =>
          obtain rfl : true = b := by simpa using hb
          have hdir := hpaved.made _ List.prefix_rfl (hdone.1 rfl)
          exact ⟨hpaved, by simp [hdir]⟩
        | false =>
          obtain rfl : false = b := by simpa using hb
          have hkept := hpaved.kept (d.place p.parent) fun hpre => by simpa using hdone.2 hpre.2
          exact ⟨hpaved, by simp [hkept, hnone]⟩
  · have hhas : d.has p.parent = .ok false := by simp [has, hname]
    simp [hhas, hname] at hb

/-- The directory of a file is looked for before anything else, so its path is a possible one. -/
theorem prepareParent_ok (h : d.IsTree) {p : Path} (hplain : ".." ∉ p.components) {b : Bool}
    (hb : (d.prepareParent p).written = .ok b) :
    p.parent.isNameable = true ∧ p.parent.fits = true := by
  have hplain' : ".." ∉ p.parent.components := fun hm => hplain ((List.dropLast_subset _) hm)
  unfold prepareParent at hb
  by_cases hname : p.parent.isNameable = true
  · refine ⟨hname, ?_⟩
    cases hhas : d.has p.parent with
    | error e => simp [hhas] at hb
    | ok there => exact fits_of_not_refused h hplain' (has_ok h hplain' hname hhas).1
  · have hhas : d.has p.parent = .ok false := by simp [has, hname]
    simp [hhas, hname] at hb

theorem prepareParent_cases (h : d.IsTree) {p : Path} (hplain : ".." ∉ p.components)
    (hname : p.parent.isNameable = true) (hfits : p.parent.fits = true) :
    d.MeetsLongName p.parent ∧
        d.prepareParent p = { disk := d, written := .error .tooLong } ∨
      ¬d.MeetsLongName p.parent ∧ ∃ b, (d.prepareParent p).written = .ok b := by
  have hplain' : ".." ∉ p.parent.components := fun hm => hplain ((List.dropLast_subset _) hm)
  unfold prepareParent
  rcases has_cases h hplain' hname hfits with ⟨hlong, hhas⟩ | ⟨hshort, there, hhas⟩
  · exact .inl ⟨hlong, by simp only [hhas]⟩
  · refine .inr ⟨hshort, ?_⟩
    simp only [hhas]
    cases there with
    | true => exact ⟨true, rfl⟩
    | false =>
      simp only [hname, Bool.not_true, Bool.false_eq_true, if_false]
      obtain ⟨made, done⟩ := d.makeDirectories p.parent
      cases done with
      | true => exact ⟨true, rfl⟩
      | false => exact ⟨false, rfl⟩

theorem Paved.kept_place (h : d.IsTree) {p : Path} {paved : Disk}
    (hpaved : d.Paved (d.place p.parent) paved) :
    paved.get? (d.place p) = d.get? (d.place p) :=
  hpaved.kept _ fun hpre => ((creatable_above_iff h).2 hpre).2.1 rfl

/-! ## Files -/

/-- A file can be written at the path: the directory it goes into is there, it is not a directory
itself, and nothing is too long. -/
def Writable (d : Disk) (p : Path) : Prop :=
  p.fits = true ∧ p.components.all Path.fitsComponent = true ∧
    d.get? (d.place p.parent) = some .directory ∧ d.get? (d.place p) ≠ some .directory

theorem write_of_writable (h : d.IsTree) {p : Path} (hplain : ".." ∉ p.components)
    (hw : d.Writable p) (bytes : ByteArray) :
    d.write p bytes = .ok (d.put (d.place p) (.file bytes)) := by
  obtain ⟨hfits, hshort, hdir, hfile⟩ := hw
  rw [write, locate_of_way h hplain hfits hshort hdir]
  simp only [bind, Except.bind]

theorem write_of_not_writable (h : d.IsTree) {p : Path} (hplain : ".." ∉ p.components)
    (hw : ¬d.Writable p) (bytes : ByteArray) : ∃ e, d.write p bytes = .error e := by
  have hleads := locate_leads h hplain
  rw [write]
  generalize d.locate p = result at hleads
  cases hleads with
  | refused => exact ⟨.tooLong, rfl⟩
  | blocked => exact ⟨_, rfl⟩
  | found hfits hshort hdir =>
    have hplace : d.get? (d.place p) = some .directory := by
      by_contra hne
      exact hw ⟨hfits, hshort, hdir, hne⟩
    exact ⟨.isDirectory, by simp [bind, Except.bind, hplace]⟩

end Disk

namespace Output

variable {d : Disk} {o : Output}

/-- A file that holds something else than the output's text, line endings aside. -/
def Stale (o : Output) (d : Disk) : Prop :=
  ∃ bytes, d.get? (d.place o.path) = some (.file bytes) ∧
    ∀ old, String.fromUTF8? bytes = some old → Text.unifyNewlines old.toList ≠ o.text.toList

theorem stale_iff {bytes : ByteArray}
    (hfile : d.get? (d.place o.path) = some (.file bytes)) : o.Stale d ↔
      ∀ old, String.fromUTF8? bytes = some old →
        Text.unifyNewlines old.toList ≠ o.text.toList := by
  constructor
  · rintro ⟨other, hother, hold⟩
    obtain rfl : bytes = other := by simpa [hfile] using hother
    exact hold
  · intro hold
    exact ⟨bytes, hfile, hold⟩

/-- Closing the output would write its file. -/
def IsDue (o : Output) (d : Disk) : Prop := o.Stale d ∨ d.Creatable (d.place o.path)

structure Settled (o : Output) (d settled : Disk) : Prop where
  home : settled.home = d.home
  tree : settled.IsTree
  file : o.IsDue d → settled.get? (d.place o.path) = some (.file o.text.toUTF8)
  made : ∀ loc, loc <+: d.place o.path ∧ loc ≠ d.place o.path ∧ d.Creatable loc →
    settled.get? loc = some .directory
  kept : ∀ loc, ¬(loc = d.place o.path ∧ o.IsDue d) →
    ¬(loc <+: d.place o.path ∧ loc ≠ d.place o.path ∧ d.Creatable loc) →
    settled.get? loc = d.get? loc

theorem IsDue.parent (h : d.IsTree) (hdue : o.IsDue d)
    {paved : Disk} (hpaved : d.Paved (d.place o.path.parent) paved) :
    paved.get? (d.place o.path.parent) = some .directory := by
  have hcases : d.get? (d.place o.path.parent) = some .directory ∨
      d.Creatable (d.place o.path.parent) := by
    rcases Disk.place_cases h o.path with ⟨hdir, hsame⟩ | ⟨c, -, hplace⟩
    · exact .inl (hsame ▸ hdir)
    · rcases hdue with ⟨bytes, hbytes, -⟩ | hc
      · exact .inl (h.parent (by rw [← hplace, hbytes]; simp))
      · exact (Disk.creatable_concat.1 (hplace ▸ hc)).2.imp_left And.left
  rcases hcases with hdir | hc
  · rw [hpaved.kept _ fun hpre => by simp [hpre.2.absent h] at hdir, hdir]
  · exact hpaved.made _ List.prefix_rfl hc

/-- On a disk with the way to it made, a file is due just when it can be written, provided that it
does not hold the text yet. -/
theorem isDue_iff_writable (h : d.IsTree) (hplain : ".." ∉ o.path.components)
    (hlocate : d.locate o.path ≠ .error .tooLong)
    (hchanged : ∀ bytes, d.get? (d.place o.path) = some (.file bytes) → o.Stale d) {paved : Disk}
    (hpaved : d.Paved (d.place o.path.parent) paved) : o.IsDue d ↔ paved.Writable o.path := by
  have hplace := Disk.place_of_home hpaved.home
  constructor
  · intro hdue
    have hshort : o.path.components.all Path.fitsComponent = true := by
      rcases hdue with ⟨bytes, hbytes, -⟩ | hc
      · exact (Disk.way_of_exists h hplain hlocate (by simp [hbytes])).1
      · exact hc.short h hplain hlocate
    refine ⟨Disk.fits_of_not_refused h hplain hlocate, hshort, ?_, ?_⟩
    · rw [hplace]
      exact hdue.parent h hpaved
    · rw [hplace, hpaved.kept_place h]
      rcases hdue with ⟨bytes, hbytes, -⟩ | hc
      · simp [hbytes]
      · simp [hc.absent h]
  · rintro ⟨-, hshort, hdir, hfile⟩
    rw [hplace] at hdir
    rw [hplace, hpaved.kept_place h] at hfile
    cases hnode : d.get? (d.place o.path) with
    | some node =>
      cases node with
      | file bytes => exact .inl (hchanged bytes hnode)
      | directory => exact absurd hnode hfile
    | none =>
      rcases Disk.place_cases h o.path with ⟨hroot, -⟩ | ⟨c, hc, hlast⟩
      · simp [hnode] at hroot
      · refine .inr (hlast ▸ Disk.creatable_concat.2 ⟨List.all_eq_true.1 hshort c hc, ?_⟩)
        by_cases hup : d.Creatable (d.place o.path.parent)
        · exact .inr hup
        · rw [hpaved.kept _ fun hpre => hup hpre.2] at hdir
          exact .inl ⟨hdir, hlast ▸ hnode⟩

/-- Storing an output makes the way to its file and then writes the file if it can be written. -/
theorem store_cases (h : d.IsTree) (hplain : ".." ∉ o.path.components) {b : Bool}
    (hb : (o.store d).written = .ok b) :
    ∃ paved, d.Paved (d.place o.path.parent) paved ∧
      (b = true ∧ o.path.isNameable = true ∧ paved.Writable o.path ∧
          (o.store d).disk = paved.put (d.place o.path) (.file o.text.toUTF8) ∨
        b = false ∧ (o.store d).disk = paved ∧ ¬paved.Writable o.path ∧
          (paved.get? (d.place o.path.parent) ≠ none → o.path.isNameable = true)) := by
  unfold store at hb ⊢
  generalize hparent : d.prepareParent o.path = parent at hb ⊢
  cases hwritten : parent.written with
  | error e => simp [hwritten] at hb
  | ok made =>
    obtain ⟨hpaved, hmade⟩ := Disk.prepareParent_paves h hplain (by rw [hparent, hwritten])
    rw [hparent] at hpaved hmade
    have hplace := Disk.place_of_home hpaved.home
    refine ⟨parent.disk, hpaved, ?_⟩
    cases made with
    | false =>
      obtain rfl : false = b := by simpa [hwritten] using hb
      have hgone : parent.disk.get? (d.place o.path.parent) = none := by
        by_contra hsome
        simpa using hmade.2 hsome
      refine .inr ⟨rfl, by simp [hwritten], ?_, fun hsome => absurd hgone hsome⟩
      rintro ⟨-, -, hdir, -⟩
      rw [hplace, hgone] at hdir
      simp at hdir
    | true =>
      by_cases hname : o.path.isNameable = true
      · by_cases hw : parent.disk.Writable o.path
        · have hwrite := Disk.write_of_writable hpaved.tree hplain hw o.text.toUTF8
          rw [hplace] at hwrite
          simp only [hwritten, hname, hwrite] at hb ⊢
          obtain rfl : true = b := by simpa using hb
          exact .inl ⟨rfl, trivial, hw, rfl⟩
        · obtain ⟨e, hwrite⟩ := Disk.write_of_not_writable hpaved.tree hplain hw o.text.toUTF8
          simp only [hwritten, hname, hwrite] at hb ⊢
          obtain rfl : false = b := by simpa using hb
          exact .inr ⟨rfl, rfl, hw, fun _ => trivial⟩
      · simp [hwritten, hname] at hb

theorem settled_of_store (h : d.IsTree) (hplain : ".." ∉ o.path.components)
    (hlocate : o.path.isNameable = true → d.locate o.path ≠ .error .tooLong)
    (hchanged : o.path.isNameable = true →
      ∀ bytes, d.get? (d.place o.path) = some (.file bytes) → o.Stale d) {b : Bool}
    (hb : (o.store d).written = .ok b) :
    (b = true ↔ o.IsDue d) ∧ o.Settled d (o.store d).disk := by
  obtain ⟨paved, hpaved, ⟨rfl, hname, hw, hdisk⟩ | ⟨rfl, hdisk, hw, hname⟩⟩ :=
    store_cases h hplain hb
  · have hdue := (isDue_iff_writable h hplain (hlocate hname) (hchanged hname) hpaved).2 hw
    obtain ⟨-, -, -, hfile⟩ := hw
    rw [Disk.place_of_home hpaved.home] at hfile
    refine ⟨by simp [hdue], ?_⟩
    rw [hdisk]
    exact
      { home := hpaved.home
        tree := by
          rcases Disk.place_cases h o.path with ⟨hdir, -⟩ | ⟨c, -, hplace⟩
          · exact absurd (hpaved.kept_place h ▸ hdir) hfile
          · rw [hplace] at hfile ⊢
            exact hpaved.tree.put (hdue.parent h hpaved) hfile
        file := fun _ => by simp
        made := fun loc hloc => by
          have hpre := (Disk.creatable_above_iff h).1 hloc
          rw [Disk.get?_put, if_neg hloc.2.1.symm]
          exact hpaved.made loc hpre.1 hpre.2
        kept := fun loc hfresh hloc => by
          have hne : d.place o.path ≠ loc := fun heq => hfresh ⟨heq.symm, hdue⟩
          rw [Disk.get?_put, if_neg hne]
          exact hpaved.kept loc fun hpre => hloc ((Disk.creatable_above_iff h).2 hpre) }
  · have hdue : ¬o.IsDue d := by
      intro hdue
      have hdir := hdue.parent h hpaved
      have hname' := hname (by simp [hdir])
      exact hw ((isDue_iff_writable h hplain (hlocate hname') (hchanged hname') hpaved).1 hdue)
    refine ⟨by simp [hdue], ?_⟩
    rw [hdisk]
    exact
      { home := hpaved.home
        tree := hpaved.tree
        file := fun h' => absurd h' hdue
        made := fun loc hloc =>
          have hpre := (Disk.creatable_above_iff h).1 hloc
          hpaved.made loc hpre.1 hpre.2
        kept := fun loc _ hloc => hpaved.kept loc fun hpre =>
          hloc ((Disk.creatable_above_iff h).2 hpre) }

theorem Settled.refl (h : d.IsTree) (hdue : ¬o.IsDue d) (hsome : d.get? (d.place o.path) ≠ none) :
    o.Settled d d where
  home := rfl
  tree := h
  file h' := absurd h' hdue
  made _ hloc := absurd (h.none_of_prefix hloc.1 (hloc.2.2.absent h)) hsome
  kept _ _ _ := rfl

theorem before_ok (h : d.IsTree) (hplain : ".." ∉ o.path.components) {found : Before}
    (hb : o.before d = .ok found) :
    (o.path.isNameable = true → d.locate o.path ≠ .error .tooLong) ∧
      (found = .unchanged → ¬o.IsDue d ∧ d.get? (d.place o.path) ≠ none) ∧
      (found ≠ .unchanged → o.path.isNameable = true →
        ∀ bytes, d.get? (d.place o.path) = some (.file bytes) → o.Stale d) := by
  by_cases hname : o.path.isNameable = true
  · cases hhas : d.has o.path with
    | error e => simp [before, hhas, bind, Except.bind] at hb
    | ok there =>
      obtain ⟨hlocate, hthere⟩ := Disk.has_ok h hplain hname hhas
      refine ⟨fun _ => hlocate, ?_⟩
      cases there with
      | false =>
        obtain rfl : Before.absent = found := by
          simpa [before, hhas, bind, Except.bind, pure, Except.pure] using hb
        have hgone : d.get? (d.place o.path) = none := by
          by_contra hsome
          simpa using hthere.2 hsome
        simp [hgone]
      | true =>
        have hsome := hthere.1 rfl
        obtain ⟨hshort, hdir⟩ := Disk.way_of_exists h hplain hlocate hsome
        have hfits := Disk.fits_of_not_refused h hplain hlocate
        have hfound := Disk.locate_of_way h hplain hfits hshort hdir
        cases hnode : d.get? (d.place o.path) with
        | none => exact absurd hnode hsome
        | some node =>
          cases node with
          | directory =>
            have hread : d.read o.path = .error .isDirectory := by
              simp [Disk.read, hfound, hnode, bind, Except.bind]
            obtain rfl : Before.unreadable = found := by
              simpa [before, hhas, hread, bind, Except.bind, pure, Except.pure] using hb
            simp
          | file bytes =>
            have hread : d.read o.path = .ok bytes := by
              simp [Disk.read, hfound, hnode, bind, Except.bind]
            have hdue : o.IsDue d ↔ o.Stale d := by
              refine ⟨fun hdue => hdue.resolve_right fun hc => ?_, .inl⟩
              simp [hc.absent h] at hnode
            simp only [before, hhas, hread, bind, Except.bind, pure, Except.pure, Bool.not_true,
              Bool.false_eq_true, if_false] at hb
            rw [hdue, stale_iff hnode]
            cases hold : String.fromUTF8? bytes with
            | none =>
              obtain rfl : Before.unreadable = found := by simpa [hold] using hb
              simp
            | some old =>
              by_cases hsame : Text.unifyNewlines old.toList = o.text.toList
              · obtain rfl : Before.unchanged = found := by simpa [hold, hsame] using hb
                simp [hsame]
              · obtain rfl : Before.different = found := by simpa [hold, hsame] using hb
                simp [hsame]
  · have hhas : d.has o.path = .ok false := by simp [Disk.has, hname]
    obtain rfl : Before.absent = found := by
      simpa [before, hhas, bind, Except.bind, pure, Except.pure] using hb
    simp [hname]

theorem close_settles (h : d.IsTree) (hplain : ".." ∉ o.path.components)
    (hopen : o.finished = false) {b : Bool} (hb : (o.close d).written = .ok b) :
    (b = true ↔ o.IsDue d) ∧ o.Settled d (o.close d).disk := by
  unfold close at hb ⊢
  rw [hopen] at hb ⊢
  cases hbefore : o.before d with
  | error e => simp [hbefore] at hb
  | ok found =>
    obtain ⟨hlocate, hsame, hchanged⟩ := before_ok h hplain hbefore
    cases found with
    | unchanged =>
      obtain ⟨hdue, hsome⟩ := hsame rfl
      obtain rfl : false = b := by simpa [hbefore] using hb
      exact ⟨by simp [hdue], .refl h hdue hsome⟩
    | absent | different | unreadable =>
      simp only [hbefore] at hb ⊢
      exact settled_of_store h hplain hlocate (hchanged (by simp)) hb

/-- A close of the output can be answered: its path has no null character, or it has one in the last
name and the directory it goes into is not there and cannot be made. -/
inductive Accepted (d : Disk) (o : Output) : Prop where
  | nameable (hname : o.path.isNameable = true) (hfits : o.path.fits = true)
  | stuck (hname : o.path.isNameable = false) (hparent : o.path.parent.isNameable = true)
    (hfits : o.path.parent.fits = true) (hnone : d.get? (d.place o.path.parent) = none)
    (hstuck : ¬d.Creatable (d.place o.path.parent))

theorem prepared_of_store {b : Bool} (hb : (o.store d).written = .ok b) :
    ∃ made, (d.prepareParent o.path).written = .ok made := by
  unfold store at hb
  cases hwritten : (d.prepareParent o.path).written with
  | error e => simp [hwritten] at hb
  | ok made => exact ⟨made, rfl⟩

theorem store_ok {made : Bool} (hmade : (d.prepareParent o.path).written = .ok made)
    (hname : made = true → o.path.isNameable = true) : ∃ b, (o.store d).written = .ok b := by
  unfold store
  cases made with
  | false => exact ⟨false, by simp [hmade]⟩
  | true =>
    simp only [hmade, hname rfl, Bool.not_true, Bool.false_eq_true, if_false]
    cases (d.prepareParent o.path).disk.write o.path o.text.toUTF8 with
    | ok disk => exact ⟨true, rfl⟩
    | error e => exact ⟨false, rfl⟩

theorem before_of_has {there : Bool} (hhas : d.has o.path = .ok there) :
    ∃ found, o.before d = .ok found := by
  unfold before
  cases there with
  | false => exact ⟨.absent, by simp [hhas, bind, Except.bind, pure, Except.pure]⟩
  | true =>
    simp only [hhas, bind, Except.bind, pure, Except.pure, Bool.not_true, Bool.false_eq_true,
      if_false]
    cases d.read o.path with
    | error e => exact ⟨.unreadable, rfl⟩
    | ok bytes =>
      dsimp only
      split
      · exact ⟨.unreadable, rfl⟩
      · exact ⟨_, rfl⟩

theorem close_of_store (hopen : o.finished = false) {found : Before}
    (hbefore : o.before d = .ok found) {b : Bool} (hb : (o.store d).written = .ok b) :
    ∃ b', (o.close d).written = .ok b' := by
  simp only [close, hopen, hbefore]
  cases found with
  | unchanged => exact ⟨false, rfl⟩
  | absent | different | unreadable => exact ⟨b, hb⟩

theorem accepted_of_close (h : d.IsTree) (hplain : ".." ∉ o.path.components)
    (hopen : o.finished = false) {b : Bool} (hb : (o.close d).written = .ok b) :
    o.Accepted d := by
  cases hbefore : o.before d with
  | error e => simp [close, hopen, hbefore] at hb
  | ok found =>
    by_cases hname : o.path.isNameable = true
    · have hlocate := (before_ok h hplain hbefore).1 hname
      exact .nameable hname (Disk.fits_of_not_refused h hplain hlocate)
    · have hhas : d.has o.path = .ok false := by simp [Disk.has, hname]
      have habsent : o.before d = .ok .absent := by
        simp [before, hhas, bind, Except.bind, pure, Except.pure]
      have hstore : (o.store d).written = .ok b := by simpa [close, hopen, habsent] using hb
      obtain ⟨made, hmade⟩ := prepared_of_store hstore
      obtain ⟨hparent, hfits⟩ := Disk.prepareParent_ok h hplain hmade
      obtain ⟨paved, hpaved, ⟨-, hname', -⟩ | ⟨-, -, -, hname'⟩⟩ := store_cases h hplain hstore
      · exact absurd hname' hname
      · have hgone : paved.get? (d.place o.path.parent) = none := by
          by_contra hsome
          exact hname (hname' hsome)
        have hstuck : ¬d.Creatable (d.place o.path.parent) := by
          intro hc
          simp [hpaved.made _ List.prefix_rfl hc] at hgone
        have hnone : d.get? (d.place o.path.parent) = none := by
          rw [← hpaved.kept _ fun hpre => hstuck hpre.2, hgone]
        exact .stuck (by simpa using hname) hparent hfits hnone hstuck

/-- A close that can be answered fails just when a name that is too long comes up, and then it
changes nothing. -/
theorem Accepted.close (h : d.IsTree) (hplain : ".." ∉ o.path.components)
    (hopen : o.finished = false) (haccepted : o.Accepted d) :
    d.MeetsLongName o.path ∧ o.close d = { disk := d, written := .error .tooLong } ∨
      ¬d.MeetsLongName o.path ∧ ∃ b, (o.close d).written = .ok b := by
  cases haccepted with
  | nameable hname hfits =>
    have hparentName := Path.parent_isNameable hname
    have hparentFits := Path.parent_fits hfits
    rcases Disk.has_cases h hplain hname hfits with ⟨hlong, hhas⟩ | ⟨hshort, there, hhas⟩
    · exact .inl ⟨hlong, by simp [Output.close, hopen, before, hhas, bind, Except.bind]⟩
    · refine .inr ⟨hshort, ?_⟩
      rcases Disk.prepareParent_cases h hplain hparentName hparentFits with
        ⟨hlong, -⟩ | ⟨-, made, hmade⟩
      · exact absurd hlong.of_parent hshort
      · obtain ⟨found, hbefore⟩ := before_of_has hhas
        obtain ⟨b, hb⟩ := store_ok hmade fun _ => hname
        exact close_of_store hopen hbefore hb
  | stuck hname hparent hfits hnone hstuck =>
    have hhas : d.has o.path = .ok false := by simp [Disk.has, hname]
    have hclose : o.close d = o.store d := by
      simp [Output.close, hopen, before, hhas, bind, Except.bind, pure, Except.pure]
    have hway : d.get? (d.place o.path.parent) ≠ some .directory := by simp [hnone]
    rw [hclose, ← Disk.meetsLongName_parent_iff hway]
    rcases Disk.prepareParent_cases h hplain hparent hfits with
      ⟨hlong, hprepared⟩ | ⟨hshort, made, hmade⟩
    · exact .inl ⟨hlong, by simp [store, hprepared]⟩
    · obtain ⟨hpaved, hdone⟩ := Disk.prepareParent_paves h hplain hmade
      have hkept := hpaved.kept _ fun hpre => hstuck hpre.2
      refine .inr ⟨hshort, store_ok hmade fun htrue => ?_⟩
      exact absurd (hkept.trans hnone) (hdone.1 htrue)

end Output

end GlueCode
