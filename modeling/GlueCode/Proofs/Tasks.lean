import GlueCode.Proofs.Steps
import GlueCode.Wrapper.Basic
/-! # Tasks that do not fail

The task of a class either has nothing to write or closes one output, whose path and text follow
from the session alone. Whatever way a run does its tasks, as long as none fails they are done one
after the other. -/
namespace GlueCode

variable {σ : Type}

namespace Step

theorem mapM_ok {α : Type} (l : List α) :
    (l.map .ok : List (Except Failure α)).mapM id = .ok l := by
  induction l with
  | nil => rfl
  | cons a l ih =>
    rw [List.map_cons, List.mapM_cons, ih]
    rfl

theorem eq_of_mapM_ok {α : Type} {results : List (Except Failure α)} {l : List α}
    (h : results.mapM id = .ok l) : results = l.map .ok := by
  induction results generalizing l with
  | nil =>
    rw [List.mapM_nil] at h
    cases h
    rfl
  | cons first rest ih =>
    rw [List.mapM_cons] at h
    cases first with
    | error e => cases h
    | ok a =>
      cases hrest : rest.mapM id with
      | error e =>
        rw [hrest] at h
        cases h
      | ok values =>
        rw [hrest] at h
        cases h
        rw [ih hrest]
        rfl

end Step

def World.counted (w : World σ) (tally : Tally) : World σ :=
  { w with generator := { w.generator with tally } }

namespace Hooks

variable {h : Hooks σ} {w w' : World σ}

theorem inTurn_of_classFiles {parallel : Bool} {classes : List ClassDecl} {tallies : List Tally}
    (hrun : (h.classFiles parallel classes).run w = (.ok tallies, w')) :
    Step.InTurn h.classFile w classes tallies w' := by
  cases parallel with
  | false => exact Step.inTurn_of_mapM hrun
  | true =>
    obtain ⟨results, v, hresults, hrun⟩ := Step.run_bind_ok.1 hrun
    rw [Step.run_ofExcept] at hrun
    obtain ⟨hmap, rfl⟩ := Prod.mk.inj hrun
    rw [Step.eq_of_mapM_ok hmap] at hresults
    exact Step.inTurn_of_outcomes hresults

theorem run_generate {workers : Json} {api : Api} {parallel : Bool}
    (hapi : w.generator.api = some api)
    (hworkers : w.generator.isParallel workers = .ok parallel) :
    (h.generate workers).run w =
      (h.classFiles parallel api.classes >>= fun tallies =>
        h.conclude (Tally.sum tallies)).run w := by
  have hrequired : w.generator.requireApi = .ok api := by simp [Session.requireApi, hapi]
  simp only [generate, Step.run_bind, Step.run_session, hrequired, hworkers, Step.run_ofExcept]

theorem generate_ok {workers : Json} {api : Api} {tally : Tally}
    (hapi : w.generator.api = some api) (hrun : (h.generate workers).run w = (.ok tally, w')) :
    ∃ tallies v, Step.InTurn h.classFile w api.classes tallies v ∧
      (h.conclude (Tally.sum tallies)).run v = (.ok tally, w') := by
  rw [generate, Step.run_session_bind] at hrun
  obtain ⟨found, hfound, hrun⟩ := Step.run_ofExcept_bind_ok hrun
  obtain rfl : api = found := by simpa [Session.requireApi, hapi] using hfound
  obtain ⟨parallel, -, hrun⟩ := Step.run_ofExcept_bind_ok hrun
  obtain ⟨tallies, v, hfiles, hrun⟩ := Step.run_bind_ok.1 hrun
  exact ⟨tallies, v, inTurn_of_classFiles hfiles, hrun⟩

theorem run_conclude (tally : Tally) (w : World σ) :
    (h.conclude tally).run w =
      match h.finish.run (w.counted tally) with
      | (.ok (), v) => (.ok tally, { v with log := v.log ++ [info ("Generated "
          ++ tally.generated.repr ++ " classes, " ++ tally.written.repr ++ " files written")] })
      | (.error e, v) => (.error e, v) := by
  rw [conclude, Step.run_bind, Step.run_change]
  simp only [Step.run_bind]
  rw [← World.counted]
  rcases h.finish.run (w.counted tally) with ⟨e | ⟨⟩, v⟩ <;> rfl

theorem conclude_ok {tally t : Tally} (hrun : (h.conclude tally).run w = (.ok t, w')) :
    t = tally ∧ ∃ v, h.finish.run (w.counted tally) = (.ok (), v) ∧
      w'.generator = v.generator ∧ w'.disk = v.disk ∧ ∃ new, w'.log = v.log ++ new := by
  rw [run_conclude] at hrun
  rcases hfinish : h.finish.run (w.counted tally) with ⟨e | ⟨⟩, v⟩
  · rw [hfinish] at hrun
    cases hrun
  · rw [hfinish] at hrun
    cases hrun
    exact ⟨rfl, v, rfl, rfl, rfl, _, rfl⟩

end Hooks

namespace Backend

/-- What the task of a class closes; nothing when the class has no file or its text fails. -/
def output? (b : Backend σ) (s : Session σ) (c : ClassDecl) : Option Output :=
  if c.entry.wanted.target then
    match b.fileName? c with
    | none => none
    | some fileName =>
      match s.classPath c fileName, (b.classText s c).run.value with
      | .ok path, .ok text => some { path, text }
      | _, _ => none
  else none

def outputs (b : Backend σ) (s : Session σ) (classes : List ClassDecl) : List Output :=
  classes.filterMap (b.output? s)

/-- A class that asks for no code or has no file. -/
def Skips (b : Backend σ) (c : ClassDecl) : Prop :=
  c.entry.wanted.target = true → b.fileName? c = none

theorem Skips.output?_eq_none {b : Backend σ} {c : ClassDecl} (h : b.Skips c) (s : Session σ) :
    b.output? s c = none := by
  unfold output?
  split
  · next htarget => rw [h htarget]
  · rfl

inductive TaskDone (b : Backend σ) (w : World σ) (c : ClassDecl) : Tally → World σ → Prop where
  | skipped (hskip : b.Skips c) : TaskDone b w c {} w
  | closed {o : Output} {written : Bool} (log : Log)
      (hsome : b.output? w.generator.toSession c = some o)
      (hwritten : (o.close w.disk).written = .ok written) :
      TaskDone b w c (Tally.one written)
        { generator := { w.generator with produced := c :: w.generator.produced }
          disk := (o.close w.disk).disk
          log := w.log ++ log ++ (o.close w.disk).log }

inductive TasksDone (b : Backend σ) : World σ → List ClassDecl → List Tally → World σ → Prop where
  | nil (w : World σ) : TasksDone b w [] [] w
  | cons {w v w' : World σ} {c : ClassDecl} {classes : List ClassDecl} {t : Tally}
      {tallies : List Tally} (hfirst : b.TaskDone w c t v)
      (hrest : TasksDone b v classes tallies w') : TasksDone b w (c :: classes) (t :: tallies) w'

variable {b : Backend σ} {w w' : World σ}

@[simp] theorem hooks_finish : b.hooks.finish = b.finish := rfl

theorem output?_eq_some_iff {s : Session σ} {c : ClassDecl} {o : Output} :
    b.output? s c = some o ↔
      c.entry.wanted.target = true ∧ ∃ fileName, b.fileName? c = some fileName ∧
        s.classPath c fileName = .ok o.path ∧ (b.classText s c).run.value = .ok o.text ∧
        o.finished = false := by
  constructor
  · intro h
    unfold output? at h
    split at h
    · next htarget =>
      split at h
      · cases h
      · next fileName hfile =>
        split at h
        · next path text hpath htext =>
          cases h
          exact ⟨htarget, fileName, hfile, hpath, htext, rfl⟩
        · cases h
    · cases h
  · rintro ⟨htarget, fileName, hfile, hpath, htext, hopen⟩
    obtain ⟨path, text, finished⟩ := o
    obtain rfl : finished = false := hopen
    rw [output?, if_pos htarget, hfile]
    simp only [hpath, htext]

theorem output?_open {s : Session σ} {c : ClassDecl} {o : Output} (h : b.output? s c = some o) :
    o.finished = false := by
  obtain ⟨-, -, -, -, -, hopen⟩ := output?_eq_some_iff.1 h
  exact hopen

theorem output?_some {s : Session σ} {c : ClassDecl} {o : Output} (h : b.output? s c = some o) :
    (∃ fileName, s.classPath c fileName = .ok o.path) ∧
      (b.classText s c).run.value = .ok o.text := by
  obtain ⟨-, fileName, -, hpath, htext, -⟩ := output?_eq_some_iff.1 h
  exact ⟨⟨fileName, hpath⟩, htext⟩

theorem run_produce_ok {c : ClassDecl} {text : String}
    (h : (b.produce c).run w = (.ok text, w')) :
    (b.classText w.generator.toSession c).run.value = .ok text ∧
      w' = { w with
        generator := { w.generator with produced := c :: w.generator.produced }
        log := w.log ++ (b.classText w.generator.toSession c).run.log } := by
  rw [produce, Step.run_session_bind] at h
  obtain ⟨text', v', htext, h⟩ := Step.run_bind_ok.1 h
  rw [Step.run_attempt] at htext
  obtain ⟨hvalue, rfl⟩ := Prod.mk.inj htext
  cases h
  exact ⟨hvalue, rfl⟩

theorem hooks_output?_eq (b : Backend σ) (c : ClassDecl) :
    b.hooks.output? c = (do
      if !c.entry.wanted.target then return none
      match b.fileName? c with
      | none => return none
      | some fileName =>
        Step.note (debug ("generating: " ++ fileName))
        let path ← Step.ofExcept ((← Step.session).classPath c fileName)
        let text ← b.produce c
        return some { path, text } : Step σ (Option Output)) := by
  cases htarget : c.entry.wanted.target with
  | false => simp [Hooks.output?, hooks, htarget]
  | true =>
    cases hfile : b.fileName? c with
    | none => simp [Hooks.output?, hooks, htarget, hfile]
    | some fileName =>
      simp only [Hooks.output?, hooks, htarget, hfile, Session.classPath, Step.ofExcept_bind,
        pure_bind, bind_assoc, Bool.not_true, Bool.false_eq_true, if_false]
      refine Step.ext fun w => ?_
      -- the session is looked at twice, and has not changed in between
      rw [Step.run_note_bind, Step.run_note_bind, Step.run_session_bind, Step.run_session_bind]
      cases w.generator.outputDirectory <;> rfl

theorem classFile_eq (b : Backend σ) (c : ClassDecl) :
    b.classFile c = (do
      if !c.entry.wanted.target then return {}
      match b.fileName? c with
      | none => return {}
      | some fileName =>
        Step.note (debug ("generating: " ++ fileName))
        let path ← Step.ofExcept ((← Step.session).classPath c fileName)
        let text ← b.produce c
        return Tally.one (← Step.close { path, text }) : Step σ Tally) := by
  rw [classFile, Hooks.classFile, hooks_output?_eq]
  cases c.entry.wanted.target with
  | false => simp
  | true => cases b.fileName? c <;> simp

theorem run_output?_skips {c : ClassDecl} (h : b.Skips c) (w : World σ) :
    (b.hooks.output? c).run w = (.ok none, w) := by
  rw [hooks_output?_eq]
  cases htarget : c.entry.wanted.target with
  | false => rfl
  | true =>
    rw [h htarget]
    rfl

theorem run_output?_some {g : Generator σ} {c : ClassDecl} {o : Output}
    (h : b.output? g.toSession c = some o) :
    ∃ new, ∀ disk log, (b.hooks.output? c).run ⟨g, disk, log⟩ =
      (.ok (some o), ⟨{ g with produced := c :: g.produced }, disk, log ++ new⟩) := by
  obtain ⟨htarget, fileName, hfile, hpath, htext, hopen⟩ := output?_eq_some_iff.1 h
  obtain ⟨path, text, finished⟩ := o
  obtain rfl : finished = false := hopen
  refine ⟨debug ("generating: " ++ fileName) :: (b.classText g.toSession c).run.log,
    fun disk log => ?_⟩
  rw [hooks_output?_eq]
  simp only [htarget, hfile, Bool.not_true, Bool.false_eq_true, if_false]
  rw [Step.run_note_bind, Step.run_session_bind]
  simp only [hpath, produce, Step.run_bind, Step.run_ofExcept, Step.run_session,
    Step.run_attempt, htext, Step.run_change, Step.run_pure, List.append_assoc,
    List.singleton_append]

theorem output?_of_run {c : ClassDecl} {answer : Option Output}
    (h : (b.hooks.output? c).run w = (.ok answer, w')) :
    b.Skips c ∧ answer = none ∨ ∃ o, answer = some o ∧ b.output? w.generator.toSession c = some o := by
  rw [hooks_output?_eq] at h
  by_cases htarget : c.entry.wanted.target = true
  · cases hfile : b.fileName? c with
    | none =>
      simp only [htarget, hfile] at h
      cases h
      exact .inl ⟨fun _ => hfile, rfl⟩
    | some fileName =>
      simp only [htarget, hfile] at h
      rw [if_neg (by simp), Step.run_note_bind, Step.run_session_bind] at h
      obtain ⟨path, hpath, h⟩ := Step.run_ofExcept_bind_ok h
      obtain ⟨text, v, hproduced, h⟩ := Step.run_bind_ok.1 h
      obtain ⟨htext, rfl⟩ := run_produce_ok hproduced
      cases h
      exact .inr ⟨_, rfl, output?_eq_some_iff.2 ⟨htarget, fileName, hfile, hpath, htext, rfl⟩⟩
  · simp only [htarget] at h
    cases h
    exact .inl ⟨fun hwanted => absurd hwanted htarget, rfl⟩

theorem taskDone_of_classFile {c : ClassDecl} {t : Tally}
    (h : (b.classFile c).run w = (.ok t, w')) : b.TaskDone w c t w' := by
  obtain ⟨answer, v, hasked, h⟩ := Step.run_bind_ok.1 h
  rcases output?_of_run hasked with ⟨hskip, rfl⟩ | ⟨o, rfl, ho⟩
  · rw [run_output?_skips hskip] at hasked
    cases hasked
    cases h
    exact .skipped hskip
  · obtain ⟨new, hrun⟩ := run_output?_some ho
    rw [hrun] at hasked
    cases hasked
    obtain ⟨written, hwritten, h⟩ := Step.run_close_bind_ok h
    cases h
    exact .closed new ho hwritten

theorem tasksDone_of_inTurn {classes : List ClassDecl} {tallies : List Tally}
    (h : Step.InTurn b.classFile w classes tallies w') : b.TasksDone w classes tallies w' := by
  induction h with
  | nil => exact .nil _
  | cons hfirst _ ih => exact .cons (taskDone_of_classFile hfirst) ih

theorem tasksDone_of_mapM {classes : List ClassDecl} {tallies : List Tally}
    (h : (classes.mapM b.classFile).run w = (.ok tallies, w')) :
    b.TasksDone w classes tallies w' :=
  tasksDone_of_inTurn (Step.inTurn_of_mapM h)

theorem tasksDone_of_outcomes {classes : List ClassDecl} {tallies : List Tally}
    (h : (Step.outcomes b.classFile classes).run w = (.ok (tallies.map .ok), w')) :
    b.TasksDone w classes tallies w' :=
  tasksDone_of_inTurn (Step.inTurn_of_outcomes h)

theorem tasksDone_of_classFiles {parallel : Bool} {classes : List ClassDecl}
    {tallies : List Tally} (h : (b.classFiles parallel classes).run w = (.ok tallies, w')) :
    b.TasksDone w classes tallies w' :=
  tasksDone_of_inTurn (Hooks.inTurn_of_classFiles h)

theorem run_generate {workers : Json} {api : Api} {parallel : Bool}
    (hapi : w.generator.api = some api)
    (hworkers : w.generator.isParallel workers = .ok parallel) :
    (b.generate workers).run w =
      (b.classFiles parallel api.classes >>= fun tallies =>
        b.conclude (Tally.sum tallies)).run w :=
  Hooks.run_generate hapi hworkers

theorem generate_ok {workers : Json} {api : Api} {tally : Tally}
    (hapi : w.generator.api = some api) (h : (b.generate workers).run w = (.ok tally, w')) :
    ∃ tallies v, b.TasksDone w api.classes tallies v ∧
      (b.conclude (Tally.sum tallies)).run v = (.ok tally, w') := by
  obtain ⟨tallies, v, hfiles, h⟩ := Hooks.generate_ok hapi h
  exact ⟨tallies, v, tasksDone_of_inTurn hfiles, h⟩

theorem conclude_ok {tally t : Tally} (h : (b.conclude tally).run w = (.ok t, w')) :
    t = tally ∧ ∃ v, b.finish.run (w.counted tally) = (.ok (), v) ∧
      w'.generator = v.generator ∧ w'.disk = v.disk ∧ ∃ new, w'.log = v.log ++ new :=
  Hooks.conclude_ok h

theorem TaskDone.session {c : ClassDecl} {t : Tally} (h : b.TaskDone w c t w') :
    w'.generator.toSession = w.generator.toSession ∧ w'.generator.tally = w.generator.tally := by
  cases h <;> exact ⟨rfl, rfl⟩

theorem TasksDone.session {classes : List ClassDecl} {tallies : List Tally}
    (h : b.TasksDone w classes tallies w') :
    w'.generator.toSession = w.generator.toSession ∧ w'.generator.tally = w.generator.tally := by
  induction h with
  | nil => exact ⟨rfl, rfl⟩
  | cons hfirst hrest ih => exact ⟨ih.1.trans hfirst.session.1, ih.2.trans hfirst.session.2⟩

theorem TaskDone.produced {c : ClassDecl} {t : Tally} (h : b.TaskDone w c t w') (x : ClassDecl) :
    x ∈ w'.generator.produced ↔
      x ∈ w.generator.produced ∨ x = c ∧ b.output? w.generator.toSession x ≠ none := by
  cases h with
  | skipped hskip =>
    refine ⟨.inl, fun hx => hx.resolve_right ?_⟩
    rintro ⟨rfl, hsome⟩
    exact hsome (hskip.output?_eq_none _)
  | closed log hsome hwritten =>
    rw [List.mem_cons]
    constructor
    · rintro (rfl | hx)
      · exact .inr ⟨rfl, by simp [hsome]⟩
      · exact .inl hx
    · rintro (hx | ⟨rfl, -⟩)
      · exact .inr hx
      · exact .inl rfl

theorem TasksDone.produced {classes : List ClassDecl} {tallies : List Tally}
    (h : b.TasksDone w classes tallies w') (x : ClassDecl) :
    x ∈ w'.generator.produced ↔
      x ∈ w.generator.produced ∨ x ∈ classes ∧ b.output? w.generator.toSession x ≠ none := by
  induction h with
  | nil => simp
  | cons hfirst hrest ih =>
    rw [ih, hfirst.produced, hfirst.session.1, List.mem_cons, or_and_right, or_assoc]

theorem TaskDone.log {c : ClassDecl} {t : Tally} (h : b.TaskDone w c t w') :
    ∃ new, w'.log = w.log ++ new := by
  cases h with
  | skipped => exact ⟨[], (List.append_nil _).symm⟩
  | closed log => exact ⟨_, List.append_assoc ..⟩

theorem TasksDone.log {classes : List ClassDecl} {tallies : List Tally}
    (h : b.TasksDone w classes tallies w') : ∃ new, w'.log = w.log ++ new := by
  induction h with
  | nil => exact ⟨[], (List.append_nil _).symm⟩
  | cons hfirst hrest ih =>
    obtain ⟨new, hnew⟩ := hfirst.log
    obtain ⟨more, hmore⟩ := ih
    exact ⟨new ++ more, by rw [hmore, hnew, List.append_assoc]⟩

theorem outputs_cons (s : Session σ) (c : ClassDecl) (classes : List ClassDecl) :
    b.outputs s (c :: classes) = (b.output? s c).toList ++ b.outputs s classes := by
  cases hc : b.output? s c <;> simp [outputs, hc]

theorem TasksDone.generated {classes : List ClassDecl} {tallies : List Tally}
    (h : b.TasksDone w classes tallies w') :
    (Tally.sum tallies).generated = (b.outputs w.generator.toSession classes).length := by
  induction h with
  | nil => rfl
  | cons hfirst hrest ih =>
    rw [Tally.sum_cons, Tally.generated_add, ih, hfirst.session.1, outputs_cons,
      List.length_append]
    cases hfirst with
    | skipped hskip => simp [hskip.output?_eq_none]
    | closed log hsome hwritten => simp [hsome, Tally.one]

end Backend

namespace Wrapper

def pairApi (first second : String) : Api :=
  { classes :=
      [{ handle := 1, name := first, entry := { handle := 2, kind := .object, name := first }
         functions := [{ handle := 3, name := "go" }] },
        { handle := 4, name := second, entry := { handle := 5, kind := .object, name := second }
          functions := [{ handle := 6, name := "go" }] }] }

def pairWorld (first second : String) : World WrapperState :=
  { generator :=
      { wrapper.generator {} with
        api := some (pairApi first second)
        foundPackage := "pack"
        templates := .added [(classTemplateName, "// {{ init_name }}"),
          (indexTemplateName, "// {{ module }}")] }
    disk := .blank ["home"] }

end Wrapper

end GlueCode
