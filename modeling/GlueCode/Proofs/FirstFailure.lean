import GlueCode.Proofs.Runs
/-! # The first class that fails

One after the other, tasks stop at the first failure. When the text of a class fails, what the
classes before it did stays done: their files are on the disk and they count as produced. Nothing
else has changed: the failing class and those after it leave no trace on the disk, the backend does
not finish, and the tally is still that of the last run that did all its tasks. -/
namespace GlueCode

variable {σ : Type}

namespace Output

variable {o : Output} {d : Disk}

theorem store_disk (o : Output) (d : Disk) :
    d.Extended (o.store d).disk ∨ o.Written d (o.store d).disk := by
  have hpaved := d.extended_prepareParent o.path
  rw [store]
  dsimp only
  split
  · split
    · exact .inl hpaved
    · split
      · next hwrite => exact .inr (written_of_write hpaved hwrite)
      · exact .inl hpaved
  · exact .inl hpaved

theorem close_disk (o : Output) (d : Disk) :
    d.Extended (o.close d).disk ∨ o.Written d (o.close d).disk := by
  rw [close]
  split
  · exact .inl .refl
  · split
    · exact .inl .refl
    · exact .inl .refl
    · exact store_disk o d
    · exact store_disk o d

theorem close_home (o : Output) (d : Disk) : (o.close d).disk.home = d.home := by
  rcases close_disk o d with hmade | hwritten
  · exact hmade.grown.home
  · exact hwritten.replaced.home

theorem close_file_iff {loc : Location} {bytes : ByteArray} (hne : loc ≠ d.target o.path) :
    (o.close d).disk.get? loc = some (.file bytes) ↔ d.get? loc = some (.file bytes) := by
  rcases close_disk o d with hmade | hwritten
  · exact hmade.file_iff
  · exact hwritten.file_iff hne

end Output

theorem Disk.closeAll?_file_iff {d d' : Disk} {outputs : List Output} {loc : Location}
    {bytes : ByteArray} (h : d.closeAll? outputs = some d')
    (hne : ∀ o ∈ outputs, loc ≠ d.target o.path) :
    d'.get? loc = some (.file bytes) ↔ d.get? loc = some (.file bytes) := by
  induction outputs generalizing d with
  | nil =>
    obtain rfl := Option.some.inj h
    rfl
  | cons o outputs ih =>
    obtain ⟨_, -, hrest⟩ := closeAll?_cons h
    have hothers : ∀ x ∈ outputs, loc ≠ (o.close d).disk.target x.path := by
      intro x hx
      rw [target_of_home (Output.close_home o d)]
      exact hne x (List.mem_cons_of_mem o hx)
    exact (ih hrest hothers).trans (Output.close_file_iff (hne o List.mem_cons_self))

/-- At most one worker, given for the run, or in the settings when none is given. -/
def Session.FewWorkers (s : Session σ) (given : Json) : Prop :=
  (∃ n ≤ 1, given = .int n) ∨ given = .null ∧
    (s.settings.maxWorkers = .null ∨ ∃ n ≤ 1, s.settings.maxWorkers = .int n)

theorem Session.FewWorkers.isParallel {s : Session σ} {given : Json} (h : s.FewWorkers given) :
    s.isParallel given = .ok false := by
  rcases h with ⟨n, hn, rfl⟩ | ⟨rfl, hnone | ⟨n, hn, hsettings⟩⟩
  · simp [Session.isParallel, hn]
  · simp [Session.isParallel, hnone, Json.holds]
  · simp [Session.isParallel, hsettings, hn]

namespace Backend

variable {b : Backend σ} {w v w' : World σ} {earlier later : List ClassDecl} {c : ClassDecl}
  {e : Failure} {api : Api} {workers : Json}

/-- The classes in front of `c` come through, and `v` is the world that they leave. The class is
eligible, the path of its file can be told, and then its text fails. -/
structure StopsAt (b : Backend σ) (w : World σ) (earlier : List ClassDecl) (c : ClassDecl)
    (e : Failure) (v : World σ) : Prop where
  front : ∃ tallies, (earlier.mapM b.classFile).run w = (.ok tallies, v)
  eligible : b.Eligible c
  path : ∀ fileName, b.fileName? c = some fileName →
    ∃ path, w.generator.classPath c fileName = .ok path
  fails : (b.classText w.generator.toSession c).run.value = .error e

theorem run_classFile_fails (heligible : b.Eligible c)
    (hpath : ∀ fileName, b.fileName? c = some fileName →
      ∃ path, v.generator.classPath c fileName = .ok path)
    (hfails : (b.classText v.generator.toSession c).run.value = .error e) :
    ∃ log, (b.classFile c).run v = (.error e, { v with log }) := by
  obtain ⟨htarget, hsome⟩ := heligible
  obtain ⟨fileName, hfile⟩ := Option.isSome_iff_exists.1 hsome
  obtain ⟨path, hclassPath⟩ := hpath fileName hfile
  refine ⟨v.log ++ [debug ("generating: " ++ fileName)] ++
    (b.classText v.generator.toSession c).run.log, ?_⟩
  rw [classFile_eq]
  simp only [htarget, hfile]
  rw [if_neg (by simp), Step.run_note_bind, Step.run_session_bind]
  simp only [hclassPath, produce, Step.run_bind, Step.run_ofExcept, Step.run_session,
    Step.run_attempt, hfails]

theorem mapM_stops {tallies : List Tally}
    (hfront : (earlier.mapM b.classFile).run w = (.ok tallies, v))
    (hfails : (b.classFile c).run v = (.error e, w')) (later : List ClassDecl) :
    ((earlier ++ c :: later).mapM b.classFile).run w = (.error e, w') := by
  rw [List.mapM_append, Step.run_bind, hfront]
  simp only [List.mapM_cons, Step.run_bind, hfails]

theorem StopsAt.generate (h : b.StopsAt w earlier c e v) (hapi : w.generator.api = some api)
    (hworkers : w.generator.isParallel workers = .ok false)
    (hclasses : api.classes = earlier ++ c :: later) :
    ∃ log, ∀ finish,
      (({ b with finish } : Backend σ).generate workers).run w = (.error e, { v with log }) := by
  obtain ⟨tallies, hfront⟩ := h.front
  have hsession := (tasksDone_of_mapM hfront).session.1
  obtain ⟨log, hfails⟩ := run_classFile_fails h.eligible (hsession ▸ h.path) (hsession ▸ h.fails)
  refine ⟨log, fun finish => ?_⟩
  have htasks := mapM_stops hfront hfails later
  rw [← hclasses] at htasks
  have hfiles : (({ b with finish } : Backend σ).classFiles false api.classes).run w =
      (.error e, { v with log }) := htasks
  rw [run_generate hapi hworkers, Step.run_bind, hfiles]

theorem StopsAt.first (h : b.StopsAt w earlier c e v) : ∀ x ∈ earlier, b.Eligible x →
    ∃ text, (b.classText w.generator.toSession x).run.value = .ok text := by
  obtain ⟨tallies, hfront⟩ := h.front
  intro x hx heligible
  rcases (tasksDone_of_mapM hfront).skips_or x hx with hskip | ⟨o, ho⟩
  · exact absurd heligible (not_eligible_iff.2 hskip)
  · exact ⟨o.text, (output?_some ho).2⟩

/-- A run with one worker that meets a class whose text fails, whatever was asked of the generator
before: the failure is that of the first such class, the disk is the one that the classes in front
of it leave, with every other file as it was, the backend does not finish, the tally stays, and the
eligible classes in front are what is newly produced. The wrapper and the recorder are among the
backends this is about. -/
theorem first_failure_leaves_front {settings : Settings} {disk : Disk} {deeds : List (Deed σ)}
    (hw : w = b.after settings disk deeds) (hfinish : b.finish.KeepsTally)
    (hapi : w.generator.api = some api)
    (hworkers : w.generator.isParallel workers = .ok false)
    (hclasses : api.classes = earlier ++ c :: later) (hstops : b.StopsAt w earlier c e v) :
    (∀ x ∈ earlier, b.Eligible x →
        ∃ text, (b.classText w.generator.toSession x).run.value = .ok text) ∧
      (∃ w', (∀ finish, (({ b with finish } : Backend σ).generate workers).run w =
            (.error e, w')) ∧
        w'.disk = v.disk ∧
        w.disk.closeAll? (b.outputs w.generator.toSession earlier) = some w'.disk ∧
        (∀ loc, (∀ o ∈ b.outputs w.generator.toSession earlier, loc ≠ w.disk.target o.path) →
          ∀ bytes, w'.disk.get? loc = some (.file bytes) ↔
            w.disk.get? loc = some (.file bytes)) ∧
        w'.generator.toSession = w.generator.toSession ∧
        w'.generator.tally = b.lastCounted settings disk deeds ∧
        ∀ x, x ∈ w'.generator.produced ↔
          x ∈ w.generator.produced ∨ x ∈ earlier ∧ b.Eligible x) ∧
      wrapper.finish.KeepsTally ∧ ∀ o, (recorder o).finish.KeepsTally := by
  obtain ⟨log, hrun⟩ := hstops.generate hapi hworkers hclasses
  obtain ⟨tallies, hfront⟩ := hstops.front
  have hdone := tasksDone_of_mapM hfront
  refine ⟨hstops.first, ⟨{ v with log }, hrun, rfl, hdone.closeAll?, ?_, hdone.session.1, ?_,
    hdone.produced_iff⟩, Wrapper.keepsTally_finish, Recorder.keepsTally_finish⟩
  · intro loc hne bytes
    exact Disk.closeAll?_file_iff hdone.closeAll? hne
  · rw [← after_tally hfinish, ← hw]
    exact hdone.session.2

end Backend

namespace Recorder

def goodClass : ClassDecl :=
  { handle := 1, name := "Good", entry := { handle := 2, kind := .object, name := "Good" } }

def badClass : ClassDecl :=
  { handle := 3, name := "Bad", entry := { handle := 4, kind := .object, name := "Bad" } }

def lateClass : ClassDecl :=
  { handle := 5, name := "Late", entry := { handle := 6, kind := .object, name := "Late" } }

def stubborn : RecorderOptions := { fail := ["Bad"] }

def grownApi : Api := { classes := [goodClass, badClass, lateClass] }

def grownDeeds : List (Backend.Deed RecorderState) :=
  [.setUp grownApi [], .call (.workers .null), .setUp { classes := [goodClass] } []]

def grownWorld : World RecorderState :=
  (recorder stubborn).after {} (.blank ["home"]) grownDeeds

theorem bad_class_stops : ∃ w',
    ((recorder stubborn).generate (.int 0)).run grownWorld = (.error .interrupted, w') ∧
      w'.generator.tally = ⟨1, 1⟩ ∧ w'.generator.state.finished = 1 ∧
      ∀ x, x ∈ w'.generator.produced ↔ x = goodClass := by
  have hfront : (([goodClass].mapM (recorder stubborn).classFile).run grownWorld).1 =
      .ok [⟨1, 0⟩] := by decide +kernel
  have hpath : grownWorld.generator.classPath badClass "bad.txt" =
      .ok (Path.ofString "out/bad.txt") := by decide +kernel
  have hfile : (recorder stubborn).fileName? badClass = some "bad.txt" := by decide +kernel
  have hstops : (recorder stubborn).StopsAt grownWorld [goodClass] badClass .interrupted
      (([goodClass].mapM (recorder stubborn).classFile).run grownWorld).2 := by
    constructor
    · exact ⟨_, Step.run_of_result hfront⟩
    · decide +kernel
    · intro fileName hname
      obtain rfl : "bad.txt" = fileName := Option.some.inj (hfile.symm.trans hname)
      exact ⟨_, hpath⟩
    · rfl
  have hfew : grownWorld.generator.FewWorkers (.int 0) := .inl ⟨0, by decide, rfl⟩
  have hclasses : grownApi.classes = [goodClass] ++ badClass :: [lateClass] := rfl
  have hworld : grownWorld = (recorder stubborn).after {} (.blank ["home"]) grownDeeds := rfl
  obtain ⟨-, ⟨w', hrun, -, -, -, hsession, htally, hproduced⟩, -⟩ :=
    Backend.first_failure_leaves_front hworld (keepsTally_finish stubborn) rfl hfew.isParallel
      hclasses hstops
  have hcounted : (recorder stubborn).lastCounted {} (.blank ["home"]) grownDeeds = ⟨1, 1⟩ := by
    decide +kernel
  have hfinished : grownWorld.generator.state.finished = 1 := by decide +kernel
  have hempty : grownWorld.generator.produced = [] := by decide +kernel
  have hgood : (recorder stubborn).Eligible goodClass := by decide +kernel
  refine ⟨w', hrun _, htally.trans hcounted, ?_, fun x => ?_⟩
  · rw [hsession, hfinished]
  · rw [hproduced, hempty, List.mem_singleton]
    constructor
    · rintro (hx | ⟨rfl, -⟩)
      · cases hx
      · rfl
    · rintro rfl
      exact .inr ⟨rfl, hgood⟩

end Recorder

end GlueCode
