import GlueCode.Proofs.Overwrites
import GlueCode.Proofs.SecondRun
/-! # Runs that do not fail

When every class has an output or is skipped, and so has the module index, a run only fails where
closing an output does. So a run is known not to fail once its outputs can be closed one after the
other. -/
namespace GlueCode

variable {σ : Type}

/-- The disk after the outputs were closed in turn; nothing when one of them cannot be closed. -/
def Disk.closeAll? (d : Disk) : List Output → Option Disk
  | [] => some d
  | o :: rest =>
    match (o.close d).written with
    | .ok _ => (o.close d).disk.closeAll? rest
    | .error _ => none

theorem Disk.closeAll?_cons {d d' : Disk} {o : Output} {rest : List Output}
    (h : d.closeAll? (o :: rest) = some d') :
    ∃ written, (o.close d).written = .ok written ∧ (o.close d).disk.closeAll? rest = some d' := by
  rw [closeAll?] at h
  split at h
  · next written hwritten => exact ⟨written, hwritten, h⟩
  · cases h

theorem Disk.closeAll?_append {d d' : Disk} {first rest : List Output}
    (h : d.closeAll? (first ++ rest) = some d') :
    ∃ between, d.closeAll? first = some between ∧ between.closeAll? rest = some d' := by
  induction first generalizing d with
  | nil => exact ⟨d, rfl, h⟩
  | cons o first ih =>
    obtain ⟨written, hwritten, h⟩ := closeAll?_cons h
    obtain ⟨between, hbetween, hrest⟩ := ih h
    exact ⟨between, by rw [closeAll?, hwritten]; exact hbetween, hrest⟩

namespace Backend

variable {b : Backend σ}

theorem mapM_classFile_ok {s : Session σ} {classes : List ClassDecl}
    (hready : ∀ c ∈ classes, b.Skips c ∨ (b.output? s c).isSome) {w : World σ} {d : Disk}
    (hs : w.generator.toSession = s) (hclose : w.disk.closeAll? (b.outputs s classes) = some d) :
    ∃ tallies v, (classes.mapM b.classFile).run w = (.ok tallies, v) ∧ v.disk = d := by
  induction classes generalizing w with
  | nil =>
    rw [List.mapM_nil]
    exact ⟨[], w, rfl, Option.some.inj hclose⟩
  | cons c classes ih =>
    have hrest := fun x hx => hready x (List.mem_cons_of_mem c hx)
    rw [outputs_cons] at hclose
    have hfirst : ∃ t v, (b.classFile c).run w = (.ok t, v) ∧ v.generator.toSession = s ∧
        v.disk.closeAll? (b.outputs s classes) = some d := by
      rcases hready c List.mem_cons_self with hskip | hsome
      · rw [hskip.output?_eq_none] at hclose
        exact ⟨{}, w, run_classFile_skips hskip w, hs, hclose⟩
      · obtain ⟨o, ho⟩ := Option.isSome_iff_exists.1 hsome
        rw [ho] at hclose
        obtain ⟨written, hwritten, hclose⟩ := Disk.closeAll?_cons hclose
        obtain ⟨log, hrun⟩ := run_classFile_output (hs.symm ▸ ho)
        rw [hwritten] at hrun
        exact ⟨_, _, hrun, hs, hclose⟩
    obtain ⟨t, v, hrun, hsession, hclose⟩ := hfirst
    obtain ⟨tallies, u, hothers, hdisk⟩ := ih hrest hsession hclose
    refine ⟨t :: tallies, u, ?_, hdisk⟩
    rw [List.mapM_cons, Step.run_bind, hrun]
    simp only [Step.run_bind, hothers]
    rfl

end Backend

namespace Wrapper

theorem indexOutput_of_index? {g : Generator WrapperState} {api : Api} {o : Output}
    (hapi : g.api = some api) (h : index? g api = some o) : indexOutput g = .ok (some o) := by
  have hrequired : g.requireApi = .ok api := by simp [Session.requireApi, hapi]
  unfold index? at h
  split at h
  · cases h
  · next hnames =>
    split at h
    · cases h
    · next found hmodule =>
      split at h
      · next path text hpath htext =>
        simp only [indexOutput, hrequired, hmodule, bind, Except.bind, if_neg hnames]
        rw [hpath]
        simp only [htext, pure, Except.pure, Option.some.inj h]
      · cases h

theorem run_ok {w : World WrapperState} {api : Api} {workers : Json}
    (hapi : w.generator.api = some api)
    (hworkers : w.generator.isParallel workers = .ok false)
    (hready : ∀ c ∈ api.classes,
      wrapper.Skips c ∨ (wrapper.output? w.generator.toSession c).isSome)
    (hindex : (index? (afterTasks w.generator api) api).isSome)
    (hclose : (w.disk.closeAll? (runOutputs w.generator api)).isSome) :
    ∃ tally w', (wrapper.generate workers).run w = (.ok tally, w') := by
  obtain ⟨o, ho⟩ := Option.isSome_iff_exists.1 hindex
  obtain ⟨d, hd⟩ := Option.isSome_iff_exists.1 hclose
  rw [runOutputs, ho] at hd
  obtain ⟨between, hclasses, hlast⟩ := Disk.closeAll?_append hd
  obtain ⟨written, hwritten, -⟩ := Disk.closeAll?_cons hlast
  obtain ⟨tallies, v, hfiles, hdisk⟩ := Backend.mapM_classFile_ok hready rfl hclasses
  have hdone := Backend.tasksDone_of_mapM hfiles
  have hapi' : v.generator.api = some api := by rw [hdone.session.1, hapi]
  rw [index?_afterTasks .rfl hdone] at ho
  have hlast : indexOutput (v.counted (Tally.sum tallies)).generator = .ok (some o) :=
    indexOutput_of_index? hapi' ho
  have hfinish := (run_finish (v.counted (Tally.sum tallies))).1
  have hcounted : (v.counted (Tally.sum tallies)).disk = between := hdisk
  rw [hlast, Backend.closeLast, hcounted, hwritten] at hfinish
  have hconclude := (Backend.run_conclude (b := wrapper) (Tally.sum tallies) v).1
  rw [show wrapper.finish = finish from rfl, hfinish] at hconclude
  refine ⟨Tally.sum tallies, ((wrapper.conclude (Tally.sum tallies)).run v).2, ?_⟩
  rw [Backend.run_generate hapi hworkers, Step.run_bind, Backend.classFiles, Hooks.classFiles,
    if_neg Bool.false_ne_true, ← Backend.classFile, hfiles]
  exact Step.run_of_result hconclude

end Wrapper

end GlueCode
