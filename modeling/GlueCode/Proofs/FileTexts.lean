import GlueCode.Output
import GlueCode.Proofs.DiskTree
/-! # What files show

A file shows a text when it holds it, line endings aside. Closing an output that the disk does not
refuse makes its file show its text, and no other file shows anything else. -/
namespace GlueCode

/-- The disk refused to make a directory or to write a file. -/
def Record.IsFailure (r : Record) : Prop := r.level = .warning ∧ r.refused = true

instance (r : Record) : Decidable r.IsFailure := inferInstanceAs (Decidable (_ ∧ _))

theorem Text.return_notMem_unify (cs : List Char) : '\r' ∉ Text.unifyNewlines cs := by
  fun_induction Text.unifyNewlines cs with
  | case1 => simp
  | case2 cs ih => simp [ih]
  | case3 cs _ ih => simp [ih]
  | case4 c cs _ hc ih => simp_all [eq_comm]

theorem Text.unify_of_notMem {cs : List Char} (h : '\r' ∉ cs) : Text.unifyNewlines cs = cs := by
  fun_induction Text.unifyNewlines cs with
  | case1 => rfl
  | case2 => simp at h
  | case3 => simp at h
  | case4 c cs _ hc ih => rw [ih fun hmem => h (List.mem_cons_of_mem _ hmem)]

theorem Text.unify_unify (cs : List Char) :
    Text.unifyNewlines (Text.unifyNewlines cs) = Text.unifyNewlines cs :=
  unify_of_notMem (return_notMem_unify cs)

def Text.SameLines (s t : String) : Prop :=
  Text.unifyNewlines s.toList = Text.unifyNewlines t.toList

instance (s t : String) : Decidable (Text.SameLines s t) := inferInstanceAs (Decidable (_ = _))

theorem Text.fromUTF8?_toUTF8 (s : String) : String.fromUTF8? s.toUTF8 = some s := by
  rw [String.fromUTF8?, String.toUTF8_eq_toByteArray, dif_pos s.isValidUTF8]
  rfl

namespace Disk

variable {d d' : Disk}

def text? (d : Disk) (p : Path) : Option String :=
  match d.read p with
  | .ok bytes => String.fromUTF8? bytes
  | .error _ => none

def Shows (d : Disk) (p : Path) (text : String) : Prop :=
  ∃ old ∈ d.text? p, Text.SameLines old text

instance (d : Disk) (p : Path) (text : String) : Decidable (d.Shows p text) :=
  inferInstanceAs (Decidable (∃ old ∈ d.text? p, _))

theorem shows_iff {p : Path} {text : String} :
    d.Shows p text ↔ ∃ bytes old, d.read p = .ok bytes ∧ String.fromUTF8? bytes = some old ∧
      Text.SameLines old text := by
  rw [Shows, text?]
  cases hread : d.read p with
  | error e => simp
  | ok bytes => simp

theorem Shows.same {p : Path} {s t : String} (h : d.Shows p s) (h' : d.Shows p t) :
    Text.SameLines s t := by
  obtain ⟨old, hold, hs⟩ := h
  obtain ⟨old', hold', ht⟩ := h'
  obtain rfl : old = old' := by
    rw [Option.mem_def] at hold hold'
    simpa [hold] using hold'
  exact hs.symm.trans ht

theorem Shows.of_same {p : Path} {s t : String} (h : d.Shows p s) (hsame : Text.SameLines s t) :
    d.Shows p t := by
  obtain ⟨old, hold, hs⟩ := h
  exact ⟨old, hold, hs.trans hsame⟩

/-- Where a path leads when every name on the way is a directory. -/
def target (d : Disk) (p : Path) : Location :=
  p.components.foldl (fun loc c => if c = ".." then loc.dropLast else loc ++ [c])
    (d.start p)

theorem target_of_home (h : d'.home = d.home) (p : Path) : d'.target p = d.target p := by
  rw [target, target, start_of_home h]

theorem walk_target {loc last : Location} {cs : List String} (h : d.walk loc cs = .ok last) :
    last = cs.foldl (fun loc c => if c = ".." then loc.dropLast else loc ++ [c]) loc := by
  induction cs generalizing loc with
  | nil =>
    cases h
    rfl
  | cons c cs ih =>
    rw [walk] at h
    split at h
    · split at h
      · exact ih h
      · cases h
    · cases h
    · cases h

theorem locate_target {p : Path} {loc : Location} (h : d.locate p = .ok loc) :
    loc = d.target p := by
  rw [locate] at h
  split at h
  · exact walk_target h
  · cases h

theorem read_ok_iff {p : Path} {bytes : ByteArray} :
    d.read p = .ok bytes ↔ ∃ loc, d.locate p = .ok loc ∧ d.get? loc = some (.file bytes) := by
  rw [read]
  cases d.locate p with
  | error e => simp [bind, Except.bind]
  | ok loc =>
    cases hnode : d.get? loc with
    | none => simp [bind, Except.bind, hnode]
    | some node => cases node <;> simp [bind, Except.bind, hnode]

structure Grown (d d' : Disk) : Prop where
  home : d'.home = d.home
  kept : ∀ loc, d.get? loc ≠ none → d'.get? loc = d.get? loc

theorem Grown.refl (d : Disk) : d.Grown d := ⟨rfl, fun _ _ => rfl⟩

theorem Grown.trans {d'' : Disk} (h : d.Grown d') (h' : d'.Grown d'') : d.Grown d'' where
  home := h'.home.trans h.home
  kept loc hsome := by rw [h'.kept loc (h.kept loc hsome ▸ hsome), h.kept loc hsome]

inductive Extended (d : Disk) : Disk → Prop where
  | refl : Extended d d
  | made {d' : Disk} {loc : Location} (h : Extended d d') (hfree : d'.get? loc = none) :
    Extended d (d'.put loc .directory)

theorem Extended.trans {d'' : Disk} (h : d.Extended d') (h' : d'.Extended d'') :
    d.Extended d'' := by
  induction h' with
  | refl => exact h
  | made _ hfree ih => exact ih.made hfree

theorem Extended.grown (h : d.Extended d') : d.Grown d' := by
  induction h with
  | refl => exact .refl d
  | @made d' loc _ hfree ih =>
    refine ih.trans ⟨rfl, fun other hsome => ?_⟩
    have hne : loc ≠ other := by
      rintro rfl
      exact hsome hfree
    rw [get?_put, if_neg hne]

theorem Extended.file_iff (h : d.Extended d') {loc : Location} {bytes : ByteArray} :
    d'.get? loc = some (.file bytes) ↔ d.get? loc = some (.file bytes) := by
  refine ⟨fun hfile => ?_, fun hfile => (h.grown.kept loc (by simp [hfile])).trans hfile⟩
  induction h with
  | refl => exact hfile
  | @made d' other _ hfree ih =>
    rw [get?_put] at hfile
    split at hfile
    · cases hfile
    · exact ih hfile

theorem extended_of_makeDirectory {p : Path} (h : d.makeDirectory p = .ok d') : d.Extended d' := by
  rw [makeDirectory] at h
  cases hlocate : d.locate p with
  | error e => simp [hlocate, bind, Except.bind] at h
  | ok loc =>
    cases hnode : d.get? loc with
    | some node => simp [hlocate, hnode, bind, Except.bind] at h
    | none =>
      obtain rfl : d.put loc .directory = d' := by
        simpa [hlocate, hnode, bind, Except.bind] using h
      exact .made .refl hnode

theorem extended_ensureDirectory (d : Disk) (p : Path) : d.Extended (d.ensureDirectory p).1 := by
  rw [ensureDirectory]
  split
  · next hmake => exact extended_of_makeDirectory hmake
  · exact .refl

theorem extended_ensureDirectories (d : Disk) (root : Root) (rev : List String) :
    d.Extended (d.ensureDirectories root rev).1 := by
  induction rev with
  | nil => exact extended_ensureDirectory d _
  | cons c rev ih =>
    rw [ensureDirectories]
    split
    · next hmake => exact extended_of_makeDirectory hmake
    · split
      · next up hup =>
        rw [hup] at ih
        exact ih.trans (extended_ensureDirectory up _)
      · next up hup =>
        rw [hup] at ih
        exact ih
    · exact .refl

theorem extended_prepareParent (d : Disk) (p : Path) : d.Extended (d.prepareParent p).disk := by
  rw [prepareParent]
  split
  · exact .refl
  · exact .refl
  · split
    · exact .refl
    · have hmade := extended_ensureDirectories d p.parent.root p.parent.components.reverse
      rw [← makeDirectories] at hmade
      split
      · next made hresult =>
        rw [hresult] at hmade
        exact hmade
      · next made hresult =>
        rw [hresult] at hmade
        exact hmade

/-- Directories stay, and so do all files but the one at `loc`. -/
structure Replaced (d : Disk) (loc : Location) (d' : Disk) : Prop where
  home : d'.home = d.home
  directory : ∀ other, d.get? other = some .directory → d'.get? other = some .directory
  file : ∀ other bytes, other ≠ loc → d.get? other = some (.file bytes) →
    d'.get? other = some (.file bytes)

theorem Grown.replaced (h : d.Grown d') (loc : Location) : d.Replaced loc d' where
  home := h.home
  directory other hdir := (h.kept other (by simp [hdir])).trans hdir
  file other bytes _ hfile := (h.kept other (by simp [hfile])).trans hfile

theorem replaced_put {loc : Location} {bytes : ByteArray}
    (h : d.get? loc ≠ some .directory) : d.Replaced loc (d.put loc (.file bytes)) where
  home := rfl
  directory other hdir := by
    have hne : loc ≠ other := by
      rintro rfl
      exact h hdir
    rw [get?_put, if_neg hne, hdir]
  file other old hne hfile := by rw [get?_put, if_neg hne.symm, hfile]

theorem Replaced.trans {loc : Location} {d'' : Disk} (h : d.Replaced loc d')
    (h' : d'.Replaced loc d'') : d.Replaced loc d'' where
  home := h'.home.trans h.home
  directory other hdir := h'.directory other (h.directory other hdir)
  file other bytes hne hfile := h'.file other bytes hne (h.file other bytes hne hfile)

theorem Replaced.walk {loc : Location} (h : d.Replaced loc d') {from' last : Location}
    {cs : List String} (hwalk : d.walk from' cs = .ok last) : d'.walk from' cs = .ok last := by
  induction cs generalizing from' with
  | nil => exact hwalk
  | cons c cs ih =>
    rw [Disk.walk] at hwalk ⊢
    split at hwalk
    · next hdir =>
      rw [h.directory from' hdir]
      split at hwalk
      · next hfits =>
        rw [if_pos hfits]
        exact ih hwalk
      · cases hwalk
    · cases hwalk
    · cases hwalk

theorem Replaced.locate {loc : Location} (h : d.Replaced loc d') {p : Path} {last : Location}
    (hlocate : d.locate p = .ok last) : d'.locate p = .ok last := by
  rw [Disk.locate] at hlocate ⊢
  split at hlocate
  · next hfits =>
    rw [if_pos hfits, h.home]
    exact h.walk hlocate
  · cases hlocate

theorem Replaced.shows {loc : Location} (h : d.Replaced loc d') {p : Path} {text : String}
    (hne : d.target p ≠ loc) (hshows : d.Shows p text) : d'.Shows p text := by
  obtain ⟨bytes, old, hread, hrest⟩ := shows_iff.1 hshows
  obtain ⟨last, hlocate, hfile⟩ := read_ok_iff.1 hread
  obtain rfl := locate_target hlocate
  exact shows_iff.2
    ⟨bytes, old, read_ok_iff.2 ⟨_, h.locate hlocate, h.file _ bytes hne hfile⟩, hrest⟩

theorem Replaced.shows_same {loc : Location} (h : d.Replaced loc d') {p q : Path}
    {text old : String} (hp : d.Shows p old) (hsame : d.target p = d.target q)
    (hq : d'.Shows q text) : d'.Shows p text := by
  obtain ⟨before, _, hread, _⟩ := shows_iff.1 hp
  obtain ⟨last, hlocate, -⟩ := read_ok_iff.1 hread
  obtain ⟨bytes, shown, hread', hrest⟩ := shows_iff.1 hq
  obtain ⟨last', hlocate', hfile⟩ := read_ok_iff.1 hread'
  obtain rfl := locate_target hlocate
  obtain rfl := locate_target hlocate'
  rw [target_of_home h.home, ← hsame] at hfile
  exact shows_iff.2 ⟨bytes, shown, read_ok_iff.2 ⟨_, h.locate hlocate, hfile⟩, hrest⟩

end Disk

namespace Output

variable {d : Disk} {o : Output}

def Matches (o : Output) (d : Disk) : Prop :=
  ∃ old ∈ d.text? o.path, Text.unifyNewlines old.toList = o.text.toList

theorem Matches.shows (h : o.Matches d) : d.Shows o.path o.text := by
  obtain ⟨old, hold, hsame⟩ := h
  exact ⟨old, hold, by rw [Text.SameLines, ← hsame, Text.unify_unify]⟩

theorem matches_of_unchanged (h : o.before d = .ok .unchanged) : o.Matches d := by
  rw [before] at h
  cases hhas : d.has o.path with
  | error e => simp [hhas, bind, Except.bind] at h
  | ok there =>
    cases there with
    | false => simp [hhas, bind, Except.bind, pure, Except.pure] at h
    | true =>
      cases hread : d.read o.path with
      | error e => simp [hhas, hread, bind, Except.bind, pure, Except.pure] at h
      | ok bytes =>
        cases hold : String.fromUTF8? bytes with
        | none => simp [hhas, hread, hold, bind, Except.bind, pure, Except.pure] at h
        | some old =>
          by_cases hsame : Text.unifyNewlines old.toList = o.text.toList
          · exact ⟨old, by simp [Disk.text?, hread, hold], hsame⟩
          · simp [hhas, hread, hold, hsame, bind, Except.bind, pure, Except.pure] at h

theorem unchanged_of_matches (hname : o.path.isNameable = true) (h : o.Matches d) :
    o.before d = .ok .unchanged := by
  obtain ⟨old, hold, hsame⟩ := h
  cases hread : d.read o.path with
  | error e => simp [Disk.text?, hread] at hold
  | ok bytes =>
    obtain ⟨loc, hlocate, hfile⟩ := Disk.read_ok_iff.1 hread
    have hhas : d.has o.path = .ok true := by simp [Disk.has, hname, hlocate, hfile]
    have hold' : String.fromUTF8? bytes = some old := by simpa [Disk.text?, hread] using hold
    simp [before, hhas, hread, hold', hsame, bind, Except.bind, pure, Except.pure]

inductive Written (o : Output) (d : Disk) : Disk → Prop where
  | intro {paved : Disk} (hpaved : d.Extended paved)
      (hlocate : paved.locate o.path = .ok (d.target o.path))
      (hfile : paved.get? (d.target o.path) ≠ some .directory) :
    Written o d (paved.put (d.target o.path) (.file o.text.toUTF8))

variable {d' : Disk}

theorem Written.replaced (h : o.Written d d') : d.Replaced (d.target o.path) d' := by
  obtain ⟨hpaved, -, hfile⟩ := h
  exact (hpaved.grown.replaced _).trans (Disk.replaced_put hfile)

theorem Written.read (h : o.Written d d') : d'.read o.path = .ok o.text.toUTF8 := by
  obtain ⟨-, hlocate, hfile⟩ := h
  exact Disk.read_ok_iff.2 ⟨_, (Disk.replaced_put hfile).locate hlocate, by simp⟩

theorem Written.shows (h : o.Written d d') : d'.Shows o.path o.text :=
  Disk.shows_iff.2 ⟨_, _, h.read, Text.fromUTF8?_toUTF8 _, rfl⟩

theorem Written.file_iff (h : o.Written d d') {loc : Location} (hne : loc ≠ d.target o.path)
    {bytes : ByteArray} : d'.get? loc = some (.file bytes) ↔ d.get? loc = some (.file bytes) := by
  obtain ⟨hpaved, -, -⟩ := h
  rw [Disk.get?_put, if_neg hne.symm]
  exact hpaved.file_iff

theorem written_of_write {paved : Disk} (hpaved : d.Extended paved)
    (h : paved.write o.path o.text.toUTF8 = .ok d') : o.Written d d' := by
  have htarget := Disk.target_of_home hpaved.grown.home o.path
  rw [Disk.write] at h
  cases hlocate : paved.locate o.path with
  | error e => simp [hlocate, bind, Except.bind] at h
  | ok loc =>
    obtain rfl := (Disk.locate_target hlocate).trans htarget
    by_cases hdir : paved.get? (d.target o.path) = some .directory
    · simp [hlocate, hdir, bind, Except.bind] at h
    · obtain rfl : paved.put (d.target o.path) (.file o.text.toUTF8) = d' := by
        simpa [hlocate, hdir, bind, Except.bind] using h
      exact .intro hpaved hlocate hdir

theorem failure_of_prepareParent {p : Path} (h : (d.prepareParent p).written = .ok false) :
    ∃ r ∈ (d.prepareParent p).log, r.IsFailure := by
  rw [Disk.prepareParent] at h ⊢
  split at h
  · cases h
  · cases h
  · split at h
    · cases h
    · next hname =>
      rw [if_neg hname]
      split at h
      · cases h
      · exact ⟨_, List.mem_singleton_self _, rfl, rfl⟩

theorem store_writes {b : Bool} (hb : (o.store d).written = .ok b)
    (hfine : ∀ r ∈ (o.store d).log, ¬r.IsFailure) :
    b = true ∧ o.path.isNameable = true ∧ o.Written d (o.store d).disk := by
  have hpaved := d.extended_prepareParent o.path
  rw [store] at hb hfine ⊢
  cases hparent : (d.prepareParent o.path).written with
  | error e => simp [hparent] at hb
  | ok made =>
    cases made with
    | false =>
      obtain ⟨r, hr, hfailure⟩ := failure_of_prepareParent hparent
      simp only [hparent] at hfine
      exact absurd hfailure (hfine r hr)
    | true =>
      by_cases hname : o.path.isNameable = true
      · cases hwrite : (d.prepareParent o.path).disk.write o.path o.text.toUTF8 with
        | error e =>
          simp only [hparent, hname, hwrite] at hfine
          exact absurd ⟨rfl, rfl⟩ (hfine _ (List.mem_append_right _ (List.mem_singleton_self _)))
        | ok d' =>
          simp only [hparent, hname, hwrite] at hb ⊢
          obtain rfl : true = b := by simpa using hb
          exact ⟨rfl, trivial, written_of_write hpaved hwrite⟩
      · simp [hparent, hname] at hb

/-- A close that nothing is refused to leaves a file that reads as the output's text alone, and
writes the file otherwise. -/
theorem close_cases (hopen : o.finished = false) {b : Bool} (hb : (o.close d).written = .ok b)
    (hfine : ∀ r ∈ (o.close d).log, ¬r.IsFailure) :
    b = false ∧ o.Matches d ∧ (o.close d).disk = d ∨
      b = true ∧ ¬o.Matches d ∧ o.Written d (o.close d).disk := by
  rw [close, hopen] at hb hfine ⊢
  cases hbefore : o.before d with
  | error e => simp [hbefore] at hb
  | ok found =>
    have hstale : found ≠ .unchanged → o.path.isNameable = true → ¬o.Matches d := by
      intro hfound hname hmatches
      rw [unchanged_of_matches hname hmatches] at hbefore
      exact hfound (Except.ok.inj hbefore).symm
    cases found with
    | unchanged =>
      obtain rfl : false = b := by simpa [hbefore] using hb
      exact .inl ⟨rfl, matches_of_unchanged hbefore, rfl⟩
    | unreadable =>
      simp only [hbefore] at hb hfine ⊢
      obtain ⟨rfl, hname, hwritten⟩ :=
        store_writes hb fun r hr => hfine r (List.mem_cons_of_mem _ hr)
      exact .inr ⟨rfl, hstale (by simp) hname, hwritten⟩
    | absent | different =>
      simp only [hbefore] at hb hfine ⊢
      obtain ⟨rfl, hname, hwritten⟩ := store_writes hb hfine
      exact .inr ⟨rfl, hstale (by simp) hname, hwritten⟩

theorem close_shows (hopen : o.finished = false) {b : Bool} (hb : (o.close d).written = .ok b)
    (hfine : ∀ r ∈ (o.close d).log, ¬r.IsFailure) :
    d.Replaced (d.target o.path) (o.close d).disk ∧ (o.close d).disk.Shows o.path o.text := by
  rcases close_cases hopen hb hfine with ⟨-, hmatches, hdisk⟩ | ⟨-, -, hwritten⟩
  · rw [hdisk]
    exact ⟨(Disk.Grown.refl d).replaced _, hmatches.shows⟩
  · exact ⟨hwritten.replaced, hwritten.shows⟩

end Output

end GlueCode
