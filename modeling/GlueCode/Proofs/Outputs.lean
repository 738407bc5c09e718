import GlueCode.Proofs.FileTexts
import GlueCode.Proofs.SameDisk
import GlueCode.Proofs.Writing
import GlueCode.Tally
import Mathlib.Data.List.Forall2
import Mathlib.Data.List.ReduceOption
/-! # Several outputs, one after the other

Outputs are apart when neither file is the other one or stands on the way to it. Closing outputs
that are apart leaves a disk that does not depend on the order in which they are closed. -/
namespace GlueCode

theorem Disk.Creatable.below {d : Disk} {loc : Location} {cs : List String}
    (hc : d.Creatable loc) (hcs : ∀ x ∈ cs, Path.fitsComponent x = true) :
    d.Creatable (loc ++ cs) := by
  obtain ⟨front, c, rest, rfl, hfront, hnone, hfits⟩ := hc
  refine ⟨front, c, rest ++ cs, by simp, hfront, hnone, ?_⟩
  intro x hx
  rcases List.mem_append.1 (List.cons_append ▸ hx) with hx | hx
  · exact hfits x hx
  · exact hcs x hx

namespace Output

variable {d₀ d d' : Disk} {o : Output} {done : List Output}

def Apart (d : Disk) (o other : Output) : Prop :=
  ¬d.place o.path <+: d.place other.path ∧ ¬d.place other.path <+: d.place o.path

instance (d : Disk) (o other : Output) : Decidable (Apart d o other) :=
  inferInstanceAs (Decidable (_ ∧ _))

theorem apart_iff {other : Output} (hroot : o.path.root = other.path.root) :
    Apart d o other ↔ ¬o.path.components <+: other.path.components ∧
      ¬other.path.components <+: o.path.components := by
  simp [Apart, Disk.place, Disk.start, hroot, List.prefix_append_right_inj]

theorem Apart.symm {other : Output} (h : Apart d o other) : Apart d other o := ⟨h.2, h.1⟩

instance (d : Disk) : Std.Symm (Apart d) := ⟨fun _ _ => Apart.symm⟩

/-- The location is on the way to one of the files and can be made. -/
def OnWay (d : Disk) (done : List Output) (loc : Location) : Prop :=
  ∃ o ∈ done, loc <+: d.place o.path ∧ loc ≠ d.place o.path ∧ d.Creatable loc

/-- The disk after outputs were closed on `d₀`. -/
structure AllSettled (d₀ : Disk) (done : List Output) (d : Disk) : Prop where
  home : d.home = d₀.home
  tree : d.IsTree
  file : ∀ o ∈ done, o.IsDue d₀ → d.get? (d₀.place o.path) = some (.file o.text.toUTF8)
  made : ∀ loc, OnWay d₀ done loc → d.get? loc = some .directory
  kept : ∀ loc, (∀ o ∈ done, ¬(loc = d₀.place o.path ∧ o.IsDue d₀)) → ¬OnWay d₀ done loc →
    d.get? loc = d₀.get? loc
  accepted : ∀ o ∈ done, o.Accepted d₀

theorem AllSettled.nil (h : d.IsTree) : AllSettled d [] d where
  home := rfl
  tree := h
  file := by simp
  made := by simp [OnWay]
  kept _ _ _ := rfl
  accepted := by simp

/-- What a location holds later: the text of an output, a directory that was made, or what it held
before. -/
theorem AllSettled.cases (hs : AllSettled d₀ done d) (loc : Location) :
    (∃ o ∈ done, loc = d₀.place o.path ∧ d.get? loc = some (.file o.text.toUTF8)) ∨
      d₀.Creatable loc ∧ d.get? loc = some .directory ∨ d.get? loc = d₀.get? loc := by
  by_cases hfile : ∃ o ∈ done, loc = d₀.place o.path ∧ o.IsDue d₀
  · obtain ⟨o, ho, rfl, hdue⟩ := hfile
    exact .inl ⟨o, ho, rfl, hs.file o ho hdue⟩
  · by_cases hway : OnWay d₀ done loc
    · obtain ⟨o, ho, hp, hne, hc⟩ := hway
      exact .inr (.inl ⟨hc, hs.made loc ⟨o, ho, hp, hne, hc⟩⟩)
    · refine .inr (.inr (hs.kept loc ?_ hway))
      intro o ho heq
      exact hfile ⟨o, ho, heq⟩

theorem AllSettled.absent (h₀ : d₀.IsTree) (hs : AllSettled d₀ done d) {loc : Location}
    (hnone : d.get? loc = none) : d₀.get? loc = none := by
  rcases hs.cases loc with ⟨o, -, -, hfile⟩ | ⟨hc, -⟩ | hkept
  · simp [hnone] at hfile
  · exact hc.absent h₀
  · rw [← hkept, hnone]

theorem AllSettled.creatable (h₀ : d₀.IsTree) (hs : AllSettled d₀ done d) {loc : Location}
    (hc : d.Creatable loc) : d₀.Creatable loc := by
  obtain ⟨front, c, rest, rfl, hfront, hnone, hfits⟩ := hc
  rcases hs.cases front with ⟨o, -, -, hfile⟩ | ⟨hc, -⟩ | hkept
  · simp [hfront] at hfile
  · exact hc.below hfits
  · exact ⟨front, c, rest, rfl, hkept ▸ hfront, hs.absent h₀ hnone, hfits⟩

theorem AllSettled.cases_above (hs : AllSettled d₀ done d) {loc above : Location}
    (hapart : ∀ o ∈ done, ¬d₀.place o.path <+: loc) (hp : above <+: loc) :
    d₀.Creatable above ∧ d.get? above = some .directory ∨ d.get? above = d₀.get? above := by
  rcases hs.cases above with ⟨o, ho, rfl, -⟩ | hrest
  · exact absurd hp (hapart o ho)
  · exact hrest

theorem AllSettled.still_creatable (h₀ : d₀.IsTree) (hs : AllSettled d₀ done d) {loc : Location}
    (hapart : ∀ o ∈ done, ¬d₀.place o.path <+: loc) (hfree : d.get? loc ≠ some .directory)
    (hc : d₀.Creatable loc) : d.Creatable loc := by
  obtain ⟨front, c, rest, rfl, hfront, hnone, hfits⟩ := hc
  have hfront' : d.get? front = some .directory := by
    rcases hs.cases_above hapart (List.prefix_append _ _) with ⟨-, hmade⟩ | hkept
    · exact hmade
    · rw [hkept, hfront]
  rcases Disk.last_directory (c :: rest) hfront' with hwhole | ⟨back, x, tail, hway, hback, hx⟩
  · exact absurd hwhole hfree
  · have hlong : front ++ c :: rest = front ++ back ++ x :: tail := by simp [hway]
    have hstep : front ++ [c] <+: front ++ back ++ [x] := by
      rw [List.append_assoc, List.prefix_append_right_inj]
      cases back with
      | nil =>
        obtain ⟨rfl, -⟩ := List.cons.inj hway
        exact List.prefix_rfl
      | cons y back =>
        obtain ⟨rfl, -⟩ := List.cons.inj hway
        exact ⟨back ++ [x], rfl⟩
    have hgone := h₀.none_of_prefix hstep hnone
    have hfree' : d.get? (front ++ back ++ [x]) = none := by
      have hp : front ++ back ++ [x] <+: front ++ c :: rest := ⟨tail, by simp [hlong]⟩
      rcases hs.cases_above hapart hp with ⟨-, hmade⟩ | hkept
      · exact absurd hmade hx
      · rw [hkept, hgone]
    refine ⟨front ++ back, x, tail, hlong, hback, hfree', ?_⟩
    intro y hy
    exact hfits y (hway ▸ List.mem_append_right back hy)

/-- Whether an output is due does not change while outputs apart from it are closed. -/
theorem AllSettled.isDue_iff (h₀ : d₀.IsTree) (hs : AllSettled d₀ done d)
    (hapart : ∀ other ∈ done, Apart d₀ other o) : o.IsDue d ↔ o.IsDue d₀ := by
  have hplace := Disk.place_of_home hs.home o.path
  have hkept : d.get? (d₀.place o.path) = d₀.get? (d₀.place o.path) := by
    refine hs.kept _ (fun other hother heq => ?_) fun ⟨other, hother, hp, _⟩ => ?_
    · exact (hapart other hother).1 (heq.1 ▸ List.prefix_rfl)
    · exact (hapart other hother).2 hp
  have hstale : o.Stale d ↔ o.Stale d₀ := by
    unfold Stale
    rw [hplace, hkept]
  unfold IsDue
  rw [hstale, hplace]
  refine or_congr_right ⟨hs.creatable h₀, fun hc => ?_⟩
  refine hs.still_creatable h₀ (fun other hother => (hapart other hother).1) ?_ hc
  simp [hkept, hc.absent h₀]

theorem place_parent_above (d : Disk) (p : Path) : d.place p.parent <+: d.place p :=
  (List.prefix_append_right_inj _).2 (List.dropLast_prefix _)

theorem AllSettled.accepted_before (h₀ : d₀.IsTree) (hs : AllSettled d₀ done d)
    (hapart : ∀ other ∈ done, Apart d₀ other o) (h : o.Accepted d) : o.Accepted d₀ := by
  cases h with
  | nameable hname hfits => exact .nameable hname hfits
  | stuck hname hparent hfits hnone hstuck =>
    rw [Disk.place_of_home hs.home] at hnone hstuck
    refine .stuck hname hparent hfits (hs.absent h₀ hnone) fun hc => hstuck ?_
    refine hs.still_creatable h₀ (fun other hother hp => ?_) (by simp [hnone]) hc
    exact (hapart other hother).1 (hp.trans (place_parent_above d₀ o.path))

theorem AllSettled.accepted_after (h₀ : d₀.IsTree) (hs : AllSettled d₀ done d)
    (hapart : ∀ other ∈ done, other ≠ o → Apart d₀ other o) (h : o.Accepted d₀) :
    o.Accepted d := by
  cases h with
  | nameable hname hfits => exact .nameable hname hfits
  | stuck hname hparent hfits hnone hstuck =>
    have hclear : ∀ other ∈ done, ¬d₀.place other.path <+: d₀.place o.path.parent := by
      intro other hother hp
      by_cases hsame : other = o
      · subst hsame
        rcases Disk.place_cases h₀ other.path with ⟨hdir, heq⟩ | ⟨c, -, heq⟩
        · simp [heq, hnone] at hdir
        · exact Disk.not_concat_prefix (heq ▸ hp)
      · exact (hapart other hother hsame).1 (hp.trans (place_parent_above d₀ o.path))
    have hkept : d.get? (d₀.place o.path.parent) = d₀.get? (d₀.place o.path.parent) := by
      rcases hs.cases_above hclear List.prefix_rfl with ⟨hc, -⟩ | hkept
      · exact absurd hc hstuck
      · exact hkept
    rw [← Disk.place_of_home hs.home] at hkept hnone hstuck
    exact .stuck hname hparent hfits (hkept.trans hnone) fun hc => hstuck (hs.creatable h₀ hc)

theorem Settled.directory (h : d.IsTree) (hset : o.Settled d d') {loc : Location}
    (hdir : d.get? loc = some .directory) : d'.get? loc = some .directory := by
  refine (hset.kept loc ?_ ?_).trans hdir
  · rintro ⟨rfl, ⟨bytes, hbytes, -⟩ | hc⟩
    · simp [hdir] at hbytes
    · simp [hc.absent h] at hdir
  · rintro ⟨-, -, hc⟩
    simp [hc.absent h] at hdir

theorem AllSettled.cons (h₀ : d₀.IsTree) (hs : AllSettled d₀ done d)
    (hapart : ∀ other ∈ done, Apart d₀ other o) (haccepted : o.Accepted d)
    (hset : o.Settled d d') : AllSettled d₀ (o :: done) d' := by
  have hdue := hs.isDue_iff h₀ hapart
  have hplace := Disk.place_of_home hs.home o.path
  refine ⟨hset.home.trans hs.home, hset.tree, ?_, ?_, ?_, ?_⟩
  · intro other hother hdue'
    rcases List.mem_cons.1 hother with rfl | hother
    · rw [← hplace]
      exact hset.file (hdue.2 hdue')
    · have hapart' := hapart other hother
      rw [← hs.file other hother hdue']
      refine hset.kept _ (fun heq => ?_) fun hp => ?_
      · exact hapart'.1 (heq.1 ▸ hplace ▸ List.prefix_rfl)
      · exact hapart'.1 (hplace ▸ hp.1)
  · rintro loc ⟨other, hother, hp, hne, hc⟩
    by_cases hway : OnWay d₀ done loc
    · exact hset.directory hs.tree (hs.made loc hway)
    · rcases List.mem_cons.1 hother with rfl | hother
      · by_cases hdir : d.get? loc = some .directory
        · exact hset.directory hs.tree hdir
        · have hclear : ∀ done' ∈ done, ¬d₀.place done'.path <+: loc := fun done' hdone' hp' =>
            (hapart done' hdone').1 (hp'.trans hp)
          exact hset.made loc ⟨hplace ▸ hp, hplace ▸ hne, hs.still_creatable h₀ hclear hdir hc⟩
      · exact absurd ⟨other, hother, hp, hne, hc⟩ hway
  · intro loc hfile hway
    have hkept : d.get? loc = d₀.get? loc := by
      refine hs.kept loc (fun other hother => hfile other (List.mem_cons_of_mem _ hother)) ?_
      rintro ⟨other, hother, hrest⟩
      exact hway ⟨other, List.mem_cons_of_mem _ hother, hrest⟩
    refine (hset.kept loc ?_ ?_).trans hkept
    · rw [hplace, hdue]
      exact hfile o List.mem_cons_self
    · rw [hplace]
      rintro ⟨hp, hne, hc⟩
      exact hway ⟨o, List.mem_cons_self, hp, hne, hs.creatable h₀ hc⟩
  · intro other hother
    rcases List.mem_cons.1 hother with rfl | hother
    · exact hs.accepted_before h₀ hapart haccepted
    · exact hs.accepted other hother

/-- The disk depends only on which outputs were closed. -/
theorem AllSettled.same {done' : List Output} (hs : AllSettled d₀ done d)
    (hs' : AllSettled d₀ done' d') (hmem : ∀ o, o ∈ done ↔ o ∈ done') : d.Same d' where
  home := hs'.home.trans hs.home.symm
  nodes := by
    intro loc
    have hway : OnWay d₀ done loc ↔ OnWay d₀ done' loc := by simp only [OnWay, hmem]
    by_cases hfile : ∃ o ∈ done, loc = d₀.place o.path ∧ o.IsDue d₀
    · obtain ⟨o, ho, rfl, hdue⟩ := hfile
      rw [hs.file o ho hdue, hs'.file o ((hmem o).1 ho) hdue]
    · by_cases hmade : OnWay d₀ done loc
      · rw [hs.made loc hmade, hs'.made loc (hway.1 hmade)]
      · rw [hs.kept loc (fun o ho heq => hfile ⟨o, ho, heq⟩) hmade,
          hs'.kept loc (fun o ho heq => hfile ⟨o, (hmem o).2 ho, heq⟩)
            fun hmade' => hmade (hway.2 hmade')]

/-- Answers closed one after the other, those that are outputs, and what each of them counts. -/
inductive ClosedInTurn : Disk → List (Option Output) → List Tally → Disk → Prop where
  | nil (d : Disk) : ClosedInTurn d [] [] d
  | skipped {d d' : Disk} {answers : List (Option Output)} {tallies : List Tally}
      (hrest : ClosedInTurn d answers tallies d') :
      ClosedInTurn d (none :: answers) ({} :: tallies) d'
  | closed {d d' : Disk} {o : Output} {written : Bool} {answers : List (Option Output)}
      {tallies : List Tally} (hwritten : (o.close d).written = .ok written)
      (hrest : ClosedInTurn (o.close d).disk answers tallies d') :
      ClosedInTurn d (some o :: answers) (Tally.one written :: tallies) d'

def Counts (d : Disk) : Option Output → Tally → Prop
  | none, t => t = {}
  | some o, t => ∃ written, t = Tally.one written ∧ (written = true ↔ o.IsDue d)

theorem Counts.unique {answer : Option Output} {t t' : Tally} (h : Counts d answer t)
    (h' : Counts d answer t') : t = t' := by
  cases answer with
  | none => exact h.trans h'.symm
  | some o =>
    obtain ⟨written, rfl, hdue⟩ := h
    obtain ⟨written', rfl, hdue'⟩ := h'
    have hsame : written = written' := Bool.eq_iff_iff.2 (hdue.trans hdue'.symm)
    rw [hsame]

theorem ClosedInTurn.settles_on {answers : List (Option Output)} {tallies : List Tally}
    (h₀ : d₀.IsTree) (hdone : AllSettled d₀ done d) (h : ClosedInTurn d answers tallies d')
    (hopen : ∀ o ∈ answers.reduceOption, o.finished = false)
    (hplain : ∀ o ∈ answers.reduceOption, ".." ∉ o.path.components)
    (hapart : answers.reduceOption.Pairwise (Apart d₀))
    (hclear : ∀ o ∈ answers.reduceOption, ∀ other ∈ done, Apart d₀ other o) :
    List.Forall₂ (Counts d₀) answers tallies ∧
      ∃ all, AllSettled d₀ all d' ∧ ∀ o, o ∈ all ↔ o ∈ done ∨ o ∈ answers.reduceOption := by
  induction h generalizing done with
  | nil => exact ⟨.nil, done, hdone, by simp⟩
  | skipped _ ih =>
    rw [List.reduceOption_cons_of_none] at hopen hplain hapart hclear ⊢
    obtain ⟨hcounts, hall⟩ := ih hdone hopen hplain hapart hclear
    exact ⟨.cons rfl hcounts, hall⟩
  | @closed d d' o written answers tallies hwritten _ ih =>
    rw [List.reduceOption_cons_of_some] at hopen hplain hapart hclear ⊢
    obtain ⟨hopen, hrestOpen⟩ := List.forall_mem_cons.1 hopen
    obtain ⟨hplain, hrestPlain⟩ := List.forall_mem_cons.1 hplain
    obtain ⟨hapart, hrestApart⟩ := List.pairwise_cons.1 hapart
    obtain ⟨hclear, hrestClear⟩ := List.forall_mem_cons.1 hclear
    obtain ⟨hdue, hsettled⟩ := close_settles hdone.tree hplain hopen hwritten
    have haccepted := accepted_of_close hdone.tree hplain hopen hwritten
    have hnext := hdone.cons h₀ hclear haccepted hsettled
    have hrest : ∀ o' ∈ answers.reduceOption, ∀ other ∈ o :: done, Apart d₀ other o' := by
      intro o' ho'
      exact List.forall_mem_cons.2 ⟨hapart o' ho', hrestClear o' ho'⟩
    obtain ⟨hcounts, all, hall, hmem⟩ := ih hnext hrestOpen hrestPlain hrestApart hrest
    refine ⟨.cons ⟨written, rfl, hdue.trans (hdone.isDue_iff h₀ hclear)⟩ hcounts, all, hall, ?_⟩
    intro o'
    rw [hmem, List.mem_cons, List.mem_cons, or_assoc, or_left_comm]

/-- Closing outputs that are apart counts what each of them would have counted at the start. -/
theorem ClosedInTurn.settles {answers : List (Option Output)} {tallies : List Tally}
    (h₀ : d₀.IsTree) (h : ClosedInTurn d₀ answers tallies d)
    (hopen : ∀ o ∈ answers.reduceOption, o.finished = false)
    (hplain : ∀ o ∈ answers.reduceOption, ".." ∉ o.path.components)
    (hapart : answers.reduceOption.Pairwise (Apart d₀)) :
    List.Forall₂ (Counts d₀) answers tallies ∧
      ∃ all, AllSettled d₀ all d ∧ ∀ o, o ∈ all ↔ o ∈ answers.reduceOption := by
  obtain ⟨hcounts, all, hall, hmem⟩ :=
    h.settles_on h₀ (.nil h₀) hopen hplain hapart fun _ _ _ hnone => absurd hnone List.not_mem_nil
  exact ⟨hcounts, all, hall, fun o => by rw [hmem, or_iff_right List.not_mem_nil]⟩

/-- An output that was closed is not due again: it was written and reads as its text, or it was not
due before. -/
theorem AllSettled.not_due (h₀ : d₀.IsTree) (hs : AllSettled d₀ done d) (ho : o ∈ done)
    (hreturn : '\r' ∉ o.text.toList)
    (hapart : ∀ other ∈ done, other ≠ o → Apart d₀ other o) : ¬o.IsDue d := by
  have hplace := Disk.place_of_home hs.home o.path
  by_cases hdue : o.IsDue d₀
  · have hfile := hs.file o ho hdue
    rw [← hplace] at hfile
    rintro (hstale | hc)
    · have hold := Text.fromUTF8?_toUTF8 o.text
      exact (stale_iff hfile).1 hstale o.text hold (Text.unify_of_notMem hreturn)
    · simp [hc.absent hs.tree] at hfile
  · have hkept : d.get? (d₀.place o.path) = d₀.get? (d₀.place o.path) := by
      refine hs.kept _ (fun other hother heq => ?_) fun ⟨other, hother, hp, hne, hc⟩ => ?_
      · by_cases hsame : other = o
        · exact hdue (hsame ▸ heq.2)
        · exact (hapart other hother hsame).1 (heq.1 ▸ List.prefix_rfl)
      · by_cases hsame : other = o
        · exact hne (hsame ▸ rfl)
        · exact (hapart other hother hsame).2 hp
    rintro (hstale | hc)
    · refine hdue (.inl ?_)
      unfold Stale at hstale ⊢
      rwa [hplace, hkept] at hstale
    · exact hdue (.inr (hs.creatable h₀ (hplace ▸ hc)))

/-- Closing the output writes nothing and makes no directory. It fails just when a name that is too
long comes up. -/
def IsIdle (o : Output) (d : Disk) : Prop :=
  d.Same (o.close d).disk ∧
    (d.MeetsLongName o.path ∧ (o.close d).written = .error .tooLong ∨
      ¬d.MeetsLongName o.path ∧ (o.close d).written = .ok false)

theorem AllSettled.isIdle (h₀ : d₀.IsTree) (hs : AllSettled d₀ done d) (ho : o ∈ done)
    (hplain : ".." ∉ o.path.components) (hopen : o.finished = false)
    (hreturn : '\r' ∉ o.text.toList)
    (hapart : ∀ other ∈ done, other ≠ o → Apart d₀ other o) : o.IsIdle d := by
  have haccepted := hs.accepted_after h₀ hapart (hs.accepted o ho)
  unfold IsIdle
  rcases haccepted.close hs.tree hplain hopen with ⟨hlong, hclose⟩ | ⟨hshort, b, hb⟩
  · rw [hclose]
    exact ⟨⟨rfl, fun _ => rfl⟩, .inl ⟨hlong, rfl⟩⟩
  · obtain ⟨hdue, hset⟩ := close_settles hs.tree hplain hopen hb
    have hidle := hs.not_due h₀ ho hreturn hapart
    have hfalse : b = false := by simpa [hidle] using hdue
    refine ⟨⟨hset.home, fun loc => hset.kept loc (fun heq => hidle heq.2) ?_⟩, .inr ⟨hshort, ?_⟩⟩
    · -- what could be made on the way was made when the output was closed first
      rintro ⟨hp, hne, hc⟩
      rw [Disk.place_of_home hs.home] at hp hne
      have hmade := hs.made loc ⟨o, ho, hp, hne, hs.creatable h₀ hc⟩
      simp [hc.absent hs.tree] at hmade
    · rw [hb, hfalse]

end Output

end GlueCode
