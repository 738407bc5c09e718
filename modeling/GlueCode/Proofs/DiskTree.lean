import GlueCode.Disk
import Mathlib.Data.List.Induction
import Mathlib.Tactic.ByContra
import Mathlib.Tactic.Tauto
/-! # Disks that are trees

On a real disk everything stands in a directory. Paths without double dots then lead to one place
each, and whether something can be created there depends on the first thing missing on the way: it
has to be missing from a directory, and the names from there on have to be short enough. -/
namespace GlueCode

theorem Text.joinWith_prefix (sep : List Char) (a b : List (List Char)) :
    Text.joinWith sep a <+: Text.joinWith sep (a ++ b) := by
  induction a with
  | nil => exact List.nil_prefix
  | cons piece a ih =>
    cases a with
    | nil =>
      cases b with
      | nil => exact List.prefix_rfl
      | cons => exact ⟨_, (List.append_assoc ..).symm⟩
    | cons next a =>
      have hne : (next :: a) ++ b ≠ [] := by simp
      rw [List.cons_append, Text.joinWith_cons hne, Text.joinWith_cons (by simp)]
      exact (List.prefix_append_right_inj _).2 ih

theorem Text.size_le_of_prefix {a b : List Char} (h : a <+: b) :
    (String.ofList a).utf8ByteSize ≤ (String.ofList b).utf8ByteSize := by
  obtain ⟨c, rfl⟩ := h
  rw [String.ofList_append, String.utf8ByteSize_append]
  omega

theorem Path.fits_of_append {root : Root} {a b : List String}
    (h : Path.fits ⟨root, a ++ b⟩ = true) : Path.fits ⟨root, a⟩ = true := by
  by_cases ha : a = []
  · subst ha
    cases root <;> decide
  · have htext : ∀ cs : List String, cs ≠ [] → Path.text ⟨root, cs⟩ =
        root.text ++ String.ofList (Text.joinWith ['/'] (cs.map String.toList)) := by
      intro cs hcs
      simp [Path.text, hcs]
    have hle := Text.size_le_of_prefix
      (Text.joinWith_prefix ['/'] (a.map String.toList) (b.map String.toList))
    simp only [Path.fits, decide_eq_true_eq] at h ⊢
    rw [htext a ha, String.utf8ByteSize_append]
    rw [htext _ (by simp [ha]), String.utf8ByteSize_append, List.map_append] at h
    omega

theorem Path.parent_fits {p : Path} (h : p.fits = true) : p.parent.fits = true := by
  obtain ⟨root, cs⟩ := p
  obtain ⟨tail, htail⟩ := List.dropLast_prefix cs
  exact fits_of_append (b := tail) (htail.symm ▸ h)

theorem Path.parent_isNameable {p : Path} (h : p.isNameable = true) :
    p.parent.isNameable = true := by
  rw [isNameable, List.all_eq_true] at h ⊢
  intro c hc
  exact h c (List.dropLast_subset _ hc)

namespace Disk

/-- Everything stands in a directory, and relative paths start at one. -/
structure IsTree (d : Disk) : Prop where
  home : d.get? d.home = some .directory
  parent : ∀ {loc c}, d.get? (loc ++ [c]) ≠ none → d.get? loc = some .directory

def start (d : Disk) (p : Path) : Location := if p.root = .relative then d.home else []

/-- Where a path without double dots leads, whether or not anything is there. -/
def place (d : Disk) (p : Path) : Location := d.start p ++ p.components

theorem start_of_home {d d' : Disk} (h : d'.home = d.home) (p : Path) : d'.start p = d.start p := by
  simp [start, h]

theorem place_of_home {d d' : Disk} (h : d'.home = d.home) (p : Path) : d'.place p = d.place p := by
  rw [place, place, start_of_home h]

/-- Some directory lacks the first name of the way down from it to `loc`, and no name on that way is
too long. -/
def Creatable (d : Disk) (loc : Location) : Prop :=
  ∃ front c rest, loc = front ++ c :: rest ∧ d.get? front = some .directory ∧
    d.get? (front ++ [c]) = none ∧ ∀ x ∈ c :: rest, Path.fitsComponent x = true

variable {d : Disk}

theorem IsTree.above (h : d.IsTree) {loc below : Location} (hne : below ≠ [])
    (hsome : d.get? (loc ++ below) ≠ none) : d.get? loc = some .directory := by
  induction below using List.reverseRecOn with
  | nil => exact absurd rfl hne
  | append_singleton below c ih =>
    rw [← List.append_assoc] at hsome
    have hparent := h.parent hsome
    by_cases hb : below = []
    · simpa [hb] using hparent
    · exact ih hb (by simp [hparent])

theorem IsTree.directory_of_prefix (h : d.IsTree) {loc other : Location} (hp : loc <+: other)
    (hother : d.get? other = some .directory) : d.get? loc = some .directory := by
  obtain ⟨below, rfl⟩ := hp
  by_cases hb : below = []
  · simpa [hb] using hother
  · exact h.above hb (by simp [hother])

theorem IsTree.none_of_prefix (h : d.IsTree) {loc other : Location} (hp : loc <+: other)
    (hloc : d.get? loc = none) : d.get? other = none := by
  obtain ⟨below, rfl⟩ := hp
  by_cases hb : below = []
  · simpa [hb] using hloc
  · by_contra hne
    simp [h.above hb hne] at hloc

theorem IsTree.start (h : d.IsTree) (p : Path) : d.get? (d.start p) = some .directory := by
  unfold Disk.start
  split
  · exact h.home
  · exact h.directory_of_prefix List.nil_prefix h.home

theorem get?_replicate (loc : Location) (keys : List Location) (node : Node) :
    Ledger.get? loc (keys.map fun key => (key, node)) = if loc ∈ keys then some node else none := by
  induction keys with
  | nil => simp
  | cons key keys ih =>
    by_cases hkey : key = loc
    · simp [Ledger.get?, hkey]
    · simp [Ledger.get?, hkey, Ne.symm hkey, ih]

theorem get?_blank (home loc : Location) :
    (blank home).get? loc = if loc <+: home then some .directory else none := by
  have hkeys : loc ∈ (List.range (home.length + 1)).map (fun n => home.take n) ↔
      loc <+: home := by
    rw [List.mem_map]
    constructor
    · rintro ⟨n, -, rfl⟩
      exact List.take_prefix n home
    · intro hp
      refine ⟨loc.length, List.mem_range.2 (Nat.lt_succ_of_le hp.length_le), ?_⟩
      exact (List.prefix_iff_eq_take.1 hp).symm
  have hnodes := get?_replicate loc ((List.range (home.length + 1)).map fun n => home.take n)
    .directory
  rw [List.map_map] at hnodes
  simp only [hkeys] at hnodes
  exact hnodes

theorem blank_isTree (home : Location) : (blank home).IsTree where
  home := (get?_blank home home).trans (if_pos List.prefix_rfl)
  parent := by
    intro loc c hsome
    have hp : loc ++ [c] <+: home := by
      by_contra hp
      simp [get?_blank, hp] at hsome
    simp [get?_blank, (List.prefix_append loc [c]).trans hp]

theorem not_concat_prefix {loc : Location} {c : String} : ¬loc ++ [c] <+: loc := by
  intro hp
  have hle := hp.length_le
  rw [List.length_append, List.length_singleton] at hle
  exact Nat.not_succ_le_self _ hle

theorem last_directory {loc : Location} (cs : List String)
    (hloc : d.get? loc = some .directory) :
    d.get? (loc ++ cs) = some .directory ∨ ∃ front c rest, cs = front ++ c :: rest ∧
      d.get? (loc ++ front) = some .directory ∧
      d.get? (loc ++ front ++ [c]) ≠ some .directory := by
  induction cs generalizing loc with
  | nil => exact .inl (by simpa using hloc)
  | cons c rest ih =>
    by_cases hc : d.get? (loc ++ [c]) = some .directory
    · rcases ih hc with hwhole | ⟨front, x, tail, rfl, hfront, hx⟩
      · exact .inl (by simpa using hwhole)
      · exact .inr ⟨c :: front, x, tail, rfl, by simpa using hfront, by simpa using hx⟩
    · exact .inr ⟨[], c, rest, rfl, by simpa using hloc, by simpa using hc⟩

theorem Creatable.absent (h : d.IsTree) {loc : Location} (hc : d.Creatable loc) :
    d.get? loc = none := by
  obtain ⟨front, c, rest, rfl, -, hnone, -⟩ := hc
  exact h.none_of_prefix ⟨rest, by simp⟩ hnone

theorem creatable_concat {loc : Location} {c : String} :
    d.Creatable (loc ++ [c]) ↔ Path.fitsComponent c = true ∧
      (d.get? loc = some .directory ∧ d.get? (loc ++ [c]) = none ∨ d.Creatable loc) := by
  constructor
  · rintro ⟨front, x, rest, heq, hfront, hx, hfits⟩
    rcases List.eq_nil_or_concat rest with rfl | ⟨tail, last, rfl⟩
    · obtain ⟨rfl, hcx⟩ := List.append_inj' heq rfl
      obtain rfl : c = x := by simpa using hcx
      exact ⟨hfits c (by simp), .inl ⟨hfront, hx⟩⟩
    · have heq' : loc ++ [c] = (front ++ x :: tail) ++ [last] := by simpa using heq
      obtain ⟨rfl, hcl⟩ := List.append_inj' heq' rfl
      obtain rfl : c = last := by simpa using hcl
      refine ⟨hfits c (by simp), .inr ⟨front, x, tail, rfl, hfront, hx, ?_⟩⟩
      intro y hy
      exact hfits y (by simp at hy ⊢; tauto)
  · rintro ⟨hfits, ⟨hloc, hnone⟩ | ⟨front, x, rest, rfl, hfront, hx, hrest⟩⟩
    · exact ⟨loc, c, [], rfl, hloc, hnone, by simpa using hfits⟩
    · refine ⟨front, x, rest ++ [c], by simp, hfront, hx, ?_⟩
      intro y hy
      rcases List.mem_append.1 (List.cons_append ▸ hy) with hy | hy
      · exact hrest y hy
      · simpa [List.mem_singleton.1 hy] using hfits

theorem Creatable.fits (h : d.IsTree) {front rest : Location} {c : String}
    (hnone : d.get? (front ++ [c]) = none)
    (hc : d.Creatable (front ++ c :: rest)) : ∀ x ∈ c :: rest, Path.fitsComponent x = true := by
  induction rest using List.reverseRecOn with
  | nil =>
    have hlast := (creatable_concat.1 hc).1
    simpa using hlast
  | append_singleton rest x ih =>
    have hlong : front ++ c :: (rest ++ [x]) = (front ++ c :: rest) ++ [x] := by simp
    obtain ⟨hx, ⟨hdir, -⟩ | hrest⟩ := creatable_concat.1 (hlong ▸ hc)
    · have hbelow : front ++ [c] <+: front ++ c :: rest := ⟨rest, by simp⟩
      simp [h.none_of_prefix hbelow hnone] at hdir
    · intro y hy
      rcases List.mem_append.1 (List.cons_append ▸ hy) with hy | hy
      · exact ih hrest y hy
      · simpa [List.mem_singleton.1 hy] using hx

theorem not_creatable_of_file (h : d.IsTree) {loc other : Location} {bytes : ByteArray}
    (hfile : d.get? loc = some (.file bytes)) (hp : loc <+: other) : ¬d.Creatable other := by
  rintro ⟨front, c, rest, rfl, hfront, hnone, -⟩
  have hstep : front ++ [c] <+: front ++ c :: rest := ⟨rest, by simp⟩
  rcases List.prefix_or_prefix_of_prefix hp hstep with hle | hle
  · rcases List.prefix_concat_iff.1 hle with rfl | hle
    · simp [hnone] at hfile
    · simp [h.directory_of_prefix hle hfront] at hfile
  · simp [h.none_of_prefix hle hnone] at hfile

/-! ## Walking -/

theorem walk_through (h : d.IsTree) {loc : Location} {cs rest : List String}
    (hplain : ".." ∉ cs) (hdir : d.get? (loc ++ cs) = some .directory) :
    d.walk loc (cs ++ rest) =
      if cs.all Path.fitsComponent then d.walk (loc ++ cs) rest else .error .tooLong := by
  induction cs generalizing loc with
  | nil => simp
  | cons c cs ih =>
    have hloc := h.directory_of_prefix (List.prefix_append loc (c :: cs)) hdir
    have hc : c ≠ ".." := fun heq => hplain (by simp [heq])
    rw [List.cons_append, walk, hloc]
    by_cases hfit : Path.fitsComponent c
    · have hrest : ".." ∉ cs := fun hmem => hplain (List.mem_cons_of_mem _ hmem)
      have hnext : d.get? ((loc ++ [c]) ++ cs) = some .directory := by simpa using hdir
      simpa [hc, hfit] using ih hrest hnext
    · simp [hfit]

theorem walk_ok (h : d.IsTree) {loc : Location} {cs : List String} (hplain : ".." ∉ cs)
    (hdir : d.get? (loc ++ cs.dropLast) = some .directory) :
    d.walk loc cs = if cs.all Path.fitsComponent then .ok (loc ++ cs) else .error .tooLong := by
  rcases List.eq_nil_or_concat cs with rfl | ⟨front, c, rfl⟩
  · simp [walk]
  · simp only [List.concat_eq_append, List.dropLast_concat] at hdir hplain ⊢
    have hfront : ".." ∉ front := fun hmem => hplain (List.mem_append_left _ hmem)
    have hc : c ≠ ".." := fun heq => hplain (by simp [heq])
    rw [walk_through h hfront hdir, walk, hdir, List.all_append]
    cases front.all Path.fitsComponent with
    | false => rfl
    | true => cases hfit : Path.fitsComponent c <;> simp [hfit, hc, walk]

theorem walk_blocked (h : d.IsTree) {loc : Location} {front rest : List String} {c next : String}
    (hplain : ".." ∉ front ++ [c]) (hfront : d.get? (loc ++ front) = some .directory)
    (hc : d.get? (loc ++ front ++ [c]) ≠ some .directory) :
    d.walk loc (front ++ c :: next :: rest) =
      if (front ++ [c]).all Path.fitsComponent then
        .error (if d.get? (loc ++ front ++ [c]) = none then .missing else .notDirectory)
      else .error .tooLong := by
  have hf : ".." ∉ front := fun hmem => hplain (List.mem_append_left _ hmem)
  have hd : c ≠ ".." := fun heq => hplain (by simp [heq])
  rw [walk_through h hf hfront, walk, hfront, List.all_append]
  cases front.all Path.fitsComponent with
  | false => rfl
  | true =>
    cases hfit : Path.fitsComponent c with
    | false => simp [hfit]
    | true =>
      cases hx : d.get? (loc ++ front ++ [c]) with
      | none => simp_all [walk]
      | some node =>
        cases node with
        | file bytes => simp_all [walk]
        | directory => exact absurd hx hc

/-- How following a path ends: it is refused, it leads to its place, or something other than a
directory is on the way. -/
inductive Leads (d : Disk) (p : Path) : Except DiskFailure Location → Prop where
  | refused : Leads d p (.error .tooLong)
  | found (hfits : p.fits = true) (hshort : p.components.all Path.fitsComponent = true)
      (hdir : d.get? (d.start p ++ p.components.dropLast) = some .directory) :
      Leads d p (.ok (d.place p))
  | blocked {front : List String} {c next : String} {rest : List String} (hfits : p.fits = true)
      (hway : p.components = front ++ c :: next :: rest)
      (hshort : (front ++ [c]).all Path.fitsComponent = true)
      (hfront : d.get? (d.start p ++ front) = some .directory)
      (hc : d.get? (d.start p ++ front ++ [c]) ≠ some .directory) :
      Leads d p (.error
        (if d.get? (d.start p ++ front ++ [c]) = none then .missing else .notDirectory))

theorem locate_of_fits {p : Path} (h : p.fits = true) :
    d.locate p = d.walk (d.start p) p.components := by
  simp [locate, Disk.start, h]

theorem leads_of_directory (h : d.IsTree) {p : Path} (hplain : ".." ∉ p.components)
    (hfits : p.fits = true)
    (hdir : d.get? (d.start p ++ p.components.dropLast) = some .directory) :
    d.Leads p (d.locate p) := by
  rw [locate_of_fits hfits, walk_ok h hplain hdir]
  split
  · next hshort => exact .found hfits hshort hdir
  · exact .refused

theorem locate_leads (h : d.IsTree) {p : Path} (hplain : ".." ∉ p.components) :
    d.Leads p (d.locate p) := by
  by_cases hfits : p.fits = true
  · rcases last_directory p.components (h.start p) with hwhole | ⟨front, c, rest, hway, hfront, hc⟩
    · have hup : d.start p ++ p.components.dropLast <+: d.start p ++ p.components :=
        (List.prefix_append_right_inj _).2 (List.dropLast_prefix _)
      exact leads_of_directory h hplain hfits (h.directory_of_prefix hup hwhole)
    · cases rest with
      | nil => exact leads_of_directory h hplain hfits (by simpa [hway] using hfront)
      | cons next rest =>
        have hplain' : ".." ∉ front ++ [c] := by
          rw [hway] at hplain
          simp_all
        rw [locate_of_fits hfits, hway, walk_blocked h hplain' hfront hc]
        split
        · next hshort => exact .blocked hfits hway hshort hfront hc
        · exact .refused
  · have hlocate : d.locate p = .error .tooLong := by simp [locate, hfits]
    rw [hlocate]
    exact .refused

theorem none_of_blocked (h : d.IsTree) {p : Path} {front rest : List String} {c next : String}
    (hway : p.components = front ++ c :: next :: rest)
    (hc : d.get? (d.start p ++ front ++ [c]) ≠ some .directory) : d.get? (d.place p) = none := by
  by_contra hsome
  have hplace : d.place p = (d.start p ++ front ++ [c]) ++ next :: rest := by simp [place, hway]
  exact hc (h.above (List.cons_ne_nil next rest) (hplace ▸ hsome))

theorem fits_of_not_refused (h : d.IsTree) {p : Path} (hplain : ".." ∉ p.components)
    (hlocate : d.locate p ≠ .error .tooLong) : p.fits = true := by
  have hleads := locate_leads h hplain
  generalize d.locate p = result at hleads hlocate
  cases hleads with
  | refused => exact absurd rfl hlocate
  | found hfits => exact hfits
  | blocked hfits => exact hfits

theorem way_of_exists (h : d.IsTree) {p : Path} (hplain : ".." ∉ p.components)
    (hlocate : d.locate p ≠ .error .tooLong) (hsome : d.get? (d.place p) ≠ none) :
    p.components.all Path.fitsComponent = true ∧
      d.get? (d.place p.parent) = some .directory := by
  have hleads := locate_leads h hplain
  generalize d.locate p = result at hleads hlocate
  cases hleads with
  | refused => exact absurd rfl hlocate
  | found hfits hshort hdir => exact ⟨hshort, hdir⟩
  | blocked hfits hway hshort hfront hc => exact absurd (none_of_blocked h hway hc) hsome

theorem locate_of_way (h : d.IsTree) {p : Path} (hplain : ".." ∉ p.components)
    (hfits : p.fits = true) (hshort : p.components.all Path.fitsComponent = true)
    (hdir : d.get? (d.place p.parent) = some .directory) : d.locate p = .ok (d.place p) := by
  rw [locate_of_fits hfits]
  exact (walk_ok h hplain hdir).trans (if_pos hshort)

theorem has_ok (h : d.IsTree) {p : Path} (hplain : ".." ∉ p.components)
    (hname : p.isNameable = true) {b : Bool} (hb : d.has p = .ok b) :
    d.locate p ≠ .error .tooLong ∧ (b = true ↔ d.get? (d.place p) ≠ none) := by
  have hleads := locate_leads h hplain
  rw [has, hname] at hb
  generalize d.locate p = result at hleads hb ⊢
  cases hleads with
  | refused => simp at hb
  | found hfits hshort hdir =>
    obtain rfl : (d.get? (d.place p)).isSome = b := by simpa using hb
    simp [Option.isSome_iff_ne_none]
  | @blocked front c next rest hfits hway hshort hfront hc =>
    have hgone := none_of_blocked h hway hc
    by_cases hx : d.get? (d.start p ++ front ++ [c]) = none
    · rw [if_pos hx] at hb ⊢
      obtain rfl : false = b := by simpa using hb
      simp [hgone]
    · rw [if_neg hx] at hb ⊢
      obtain rfl : false = b := by simpa using hb
      simp [hgone]

theorem Creatable.short (h : d.IsTree) {p : Path} (hplain : ".." ∉ p.components)
    (hlocate : d.locate p ≠ .error .tooLong) (hc : d.Creatable (d.place p)) :
    p.components.all Path.fitsComponent = true := by
  have hleads := locate_leads h hplain
  generalize d.locate p = result at hleads hlocate
  cases hleads with
  | refused => exact absurd rfl hlocate
  | found hfits hshort hdir => exact hshort
  | @blocked front c next rest hfits hway hshort hfront hne =>
    have hplace : d.place p = (d.start p ++ front) ++ c :: next :: rest := by simp [place, hway]
    cases hx : d.get? (d.start p ++ front ++ [c]) with
    | none =>
      have hrest := Creatable.fits h hx (hplace ▸ hc)
      have hfr : front.all Path.fitsComponent = true := by simp_all
      rw [hway, List.all_append, hfr]
      exact List.all_eq_true.2 hrest
    | some node =>
      cases node with
      | file bytes => exact absurd hc (not_creatable_of_file h hx ⟨next :: rest, by simp [hplace]⟩)
      | directory => exact absurd hx hne

theorem place_cases (h : d.IsTree) (p : Path) :
    d.get? (d.place p) = some .directory ∧ d.place p = d.place p.parent ∨
      ∃ c ∈ p.components, d.place p = d.place p.parent ++ [c] := by
  obtain ⟨root, cs⟩ := p
  rcases List.eq_nil_or_concat cs with rfl | ⟨front, c, rfl⟩
  · exact .inl ⟨by simpa [place] using h.start ⟨root, []⟩, rfl⟩
  · refine .inr ⟨c, by simp, ?_⟩
    simp [place, Path.parent, start]

theorem creatable_above_iff (h : d.IsTree) {p : Path} {loc : Location} :
    loc <+: d.place p ∧ loc ≠ d.place p ∧ d.Creatable loc ↔
      loc <+: d.place p.parent ∧ d.Creatable loc := by
  rcases place_cases h p with ⟨hdir, hsame⟩ | ⟨c, -, hplace⟩
  · have hnone : loc <+: d.place p → ¬d.Creatable loc := by
      intro hp hc
      have hgone := h.none_of_prefix hp (hc.absent h)
      simp [hgone] at hdir
    rw [← hsame]
    exact ⟨fun hl => absurd hl.2.2 (hnone hl.1), fun hl => absurd hl.2 (hnone hl.1)⟩
  · rw [hplace, List.prefix_concat_iff]
    constructor
    · rintro ⟨heq | hp, hne, hc⟩
      · exact absurd heq hne
      · exact ⟨hp, hc⟩
    · rintro ⟨hp, hc⟩
      refine ⟨.inr hp, ?_, hc⟩
      rintro rfl
      exact not_concat_prefix hp

/-- On the way along a path a name that is too long comes up: directories alone are before it. -/
def MeetsLongName (d : Disk) (p : Path) : Prop :=
  ∃ front c rest, p.components = front ++ c :: rest ∧
    d.get? (d.start p ++ front) = some .directory ∧ Path.fitsComponent c = false

theorem not_meetsLongName {p : Path} (hshort : ∀ c ∈ p.components, Path.fitsComponent c = true) :
    ¬d.MeetsLongName p := by
  rintro ⟨front, c, rest, hway, -, hc⟩
  have hmem : c ∈ p.components := by simp [hway]
  simp [hshort c hmem] at hc

theorem walk_tooLong_iff (h : d.IsTree) {loc : Location} {cs : List String} (hplain : ".." ∉ cs) :
    d.walk loc cs = .error .tooLong ↔ ∃ front c rest, cs = front ++ c :: rest ∧
      d.get? (loc ++ front) = some .directory ∧ Path.fitsComponent c = false := by
  constructor
  · intro hwalk
    induction cs generalizing loc with
    | nil => cases hwalk
    | cons c cs ih =>
      have hrest : ".." ∉ cs := fun hmem => hplain (List.mem_cons_of_mem _ hmem)
      have hc : c ≠ ".." := fun heq => hplain (by simp [heq])
      rw [walk, if_neg hc] at hwalk
      split at hwalk
      · next hloc =>
        split at hwalk
        · obtain ⟨front, x, rest, rfl, hfront, hx⟩ := ih hrest hwalk
          exact ⟨c :: front, x, rest, rfl, by simpa using hfront, hx⟩
        · next hlong => exact ⟨[], c, cs, rfl, by simpa using hloc, by simpa using hlong⟩
      · cases hwalk
      · cases hwalk
  · rintro ⟨front, c, rest, rfl, hfront, hc⟩
    have hplain' : ".." ∉ front := fun hmem => hplain (List.mem_append_left _ hmem)
    rw [walk_through h hplain' hfront, walk, hfront]
    simp [hc]

theorem locate_tooLong_iff (h : d.IsTree) {p : Path} (hplain : ".." ∉ p.components)
    (hfits : p.fits = true) : d.locate p = .error .tooLong ↔ d.MeetsLongName p := by
  rw [locate_of_fits hfits]
  exact walk_tooLong_iff h hplain

/-- Looking for something fails just when a name that is too long comes up. -/
theorem has_cases (h : d.IsTree) {p : Path} (hplain : ".." ∉ p.components)
    (hname : p.isNameable = true) (hfits : p.fits = true) :
    d.MeetsLongName p ∧ d.has p = .error .tooLong ∨
      ¬d.MeetsLongName p ∧ ∃ there, d.has p = .ok there := by
  rw [← locate_tooLong_iff h hplain hfits, has, hname]
  cases d.locate p with
  | ok loc => exact .inr ⟨by simp, _, rfl⟩
  | error e =>
    cases e with
    | tooLong => exact .inl ⟨rfl, rfl⟩
    | missing | notDirectory | isDirectory | occupied => exact .inr ⟨by simp, _, rfl⟩

theorem MeetsLongName.of_parent {p : Path} (h : d.MeetsLongName p.parent) :
    d.MeetsLongName p := by
  obtain ⟨front, c, rest, hway, hfront, hc⟩ := h
  obtain ⟨tail, htail⟩ := List.dropLast_prefix p.components
  refine ⟨front, c, rest ++ tail, ?_, hfront, hc⟩
  rw [← htail]
  have hparent : p.components.dropLast = front ++ c :: rest := hway
  simp [hparent]

theorem meetsLongName_parent_iff {p : Path}
    (hparent : d.get? (d.place p.parent) ≠ some .directory) :
    d.MeetsLongName p.parent ↔ d.MeetsLongName p := by
  refine ⟨.of_parent, ?_⟩
  rintro ⟨front, c, rest, hway, hfront, hc⟩
  rcases List.eq_nil_or_concat rest with rfl | ⟨rest, last, rfl⟩
  · have hplace : d.place p.parent = d.start p ++ front := by
      simp [place, Path.parent, start, hway]
    exact absurd (hplace ▸ hfront) hparent
  · have hlong : p.components = (front ++ c :: rest) ++ [last] := by simpa using hway
    exact ⟨front, c, rest, by rw [Path.parent, hlong, List.dropLast_concat], hfront, hc⟩

end Disk

end GlueCode
