import GlueCode.Proofs.Progress
import Mathlib.Data.Set.List
/-! # Many runs

A generator is set up and run, and set up and run again. Whichever way a run does its tasks, as long
as none of them fails they come to one list of tasks done one after the other. The tally that a
generator keeps is that of the last run that did all its tasks, whatever was asked of the generator
since. -/
namespace GlueCode

variable {σ α β : Type}

/-- How a run is asked for: with a number of workers, which is null when none is given, or with
several workers that do the tasks in an order of their own. -/
inductive Call where
  | workers (given : Json)
  | inOrder (order : List (ClassDecl × Nat))

def Call.Fits (api : Api) : Call → Prop
  | .workers _ => True
  | .inOrder order => order.Perm api.classes.zipIdx

namespace Backend

variable {b : Backend σ} {w v w' : World σ} {api : Api} {k : Call}

def tasks (b : Backend σ) : Call → Step σ (List Tally)
  | .workers given => do
    let s ← Step.session
    let api ← Step.ofExcept s.requireApi
    let parallel ← Step.ofExcept (s.isParallel given)
    b.classFiles parallel api.classes
  | .inOrder order => b.classFilesIn order

def call (b : Backend σ) : Call → Step σ Tally
  | .workers given => b.generate given
  | .inOrder order => b.generateIn order

theorem run_call (k : Call) (w : World σ) :
    (b.call k).run w = (b.tasks k >>= fun tallies => b.conclude (Tally.sum tallies)).run w := by
  cases k with
  | inOrder order => rfl
  | workers given =>
    simp only [call, tasks, generate, Hooks.generate, conclude, classFiles, bind_assoc]

theorem call_ok {tally : Tally} (h : (b.call k).run w = (.ok tally, w')) :
    ∃ tallies v, (b.tasks k).run w = (.ok tallies, v) ∧
      (b.conclude (Tally.sum tallies)).run v = (.ok tally, w') := by
  rw [run_call] at h
  exact Step.run_bind_ok.1 h

def Eligible (b : Backend σ) (c : ClassDecl) : Prop :=
  c.entry.wanted.target = true ∧ (b.fileName? c).isSome = true

instance (b : Backend σ) (c : ClassDecl) : Decidable (b.Eligible c) :=
  inferInstanceAs (Decidable (_ ∧ _))

theorem not_eligible_iff {c : ClassDecl} : ¬b.Eligible c ↔ b.Skips c := by
  simp [Eligible, Skips]

theorem eligible_of_output? {s : Session σ} {c : ClassDecl} {o : Output}
    (h : b.output? s c = some o) : b.Eligible c := by
  by_contra hnot
  have hnone := (not_eligible_iff.1 hnot).output?_eq_none s
  rw [h] at hnone
  cases hnone

theorem output?_ne_none_iff {s : Session σ} {c : ClassDecl}
    (hready : b.Skips c ∨ ∃ o, b.output? s c = some o) :
    b.output? s c ≠ none ↔ b.Eligible c := by
  constructor
  · intro hne
    obtain ⟨o, ho⟩ := Option.ne_none_iff_exists'.1 hne
    exact eligible_of_output? ho
  · intro heligible
    rcases hready with hskip | ⟨o, ho⟩
    · exact absurd heligible (not_eligible_iff.2 hskip)
    · rw [ho]
      exact Option.some_ne_none o

theorem TasksDone.produced_iff {order : List ClassDecl} {tallies : List Tally}
    (h : b.TasksDone w order tallies v) (x : ClassDecl) :
    x ∈ v.generator.produced ↔ x ∈ w.generator.produced ∨ x ∈ order ∧ b.Eligible x := by
  rw [h.produced, and_congr_right fun hx => output?_ne_none_iff (h.skips_or x hx)]

theorem TasksDone.generated_eq {order : List ClassDecl} {tallies : List Tally}
    (h : b.TasksDone w order tallies v) :
    (Tally.sum tallies).generated = (order.filter fun c => b.Eligible c).length := by
  rw [h.generated, outputs, List.length_filterMap_eq_countP, ← List.countP_eq_length_filter,
    List.countP_congr]
  intro c hc
  rw [Option.isSome_iff_ne_none, output?_ne_none_iff (h.skips_or c hc), decide_eq_true_iff]

theorem TasksDone.closeAll? {order : List ClassDecl} {tallies : List Tally}
    (h : b.TasksDone w order tallies v) :
    w.disk.closeAll? (b.outputs w.generator.toSession order) = some v.disk := by
  induction h with
  | nil => rfl
  | @cons w v w' c order t tallies hfirst _ ih =>
    rw [hfirst.session.1] at ih
    rw [outputs_cons]
    cases hfirst with
    | skipped hskip =>
      rw [hskip.output?_eq_none]
      exact ih
    | closed log hsome hwritten =>
      rw [hsome, Option.toList_some, List.singleton_append, Disk.closeAll?, hwritten]
      exact ih

/-- Tasks that did not fail were done one after the other, and their tallies add up to those of the
run. -/
theorem tasks_ok {tallies : List Tally} (hapi : w.generator.api = some api) (hfits : k.Fits api)
    (h : (b.tasks k).run w = (.ok tallies, v)) :
    ∃ order done, order.Perm api.classes ∧ b.TasksDone w order done v ∧
      Tally.sum tallies = Tally.sum done := by
  cases k with
  | workers given =>
    rw [tasks, Step.run_session_bind] at h
    obtain ⟨found, hfound, h⟩ := Step.run_ofExcept_bind_ok h
    obtain rfl : api = found := by simpa [Session.requireApi, hapi] using hfound
    obtain ⟨parallel, -, h⟩ := Step.run_ofExcept_bind_ok h
    exact ⟨api.classes, tallies, .rfl, tasksDone_of_classFiles h, rfl⟩
  | inOrder order =>
    have horder : order.Perm api.classes.zipIdx := hfits
    obtain ⟨results, u, hresults, h⟩ := Step.run_bind_ok.1 h
    rw [Step.run_ofExcept] at h
    obtain ⟨hplaced, rfl⟩ := Prod.mk.inj h
    have hlength : (order.map Prod.snd).length = results.length := by
      rw [Step.outcomes_length hresults, List.length_map, List.length_map]
    have hpositions : (order.map Prod.snd).Perm (List.range (order.map Prod.snd).length) := by
      have hperm := horder.map Prod.snd
      rw [List.zipIdx_map_snd] at hperm
      rw [List.length_map, horder.length_eq, List.length_zipIdx, List.range_eq_range']
      exact hperm
    have hperm := inPlace_perm hpositions hlength
    rw [Step.eq_of_mapM_ok hplaced] at hperm
    -- no result was lost, so none is a failure
    have hall : results ∈ Set.range (List.map Except.ok) := by
      rw [Set.range_list_map]
      intro r hr
      obtain ⟨t, -, rfl⟩ := List.mem_map.1 (hperm.mem_iff.2 hr)
      exact ⟨t, rfl⟩
    obtain ⟨done, rfl⟩ := hall
    have hdone : tallies.Perm done :=
      (List.map_perm_map_iff fun _ _ heq => Except.ok.inj heq).1 hperm
    refine ⟨order.map Prod.fst, done, ?_, tasksDone_of_outcomes hresults, ?_⟩
    · simpa using horder.map Prod.fst
    · exact Tally.sum_perm hdone

/-- Runs of one interface, one right after the other, none of which failed. -/
inductive Runs (b : Backend σ) (api : Api) : World σ → World σ → Prop where
  | refl (w : World σ) : Runs b api w w
  | tail {w v w' : World σ} {k : Call} {tally : Tally} (hruns : Runs b api w v)
      (hfits : k.Fits api) (hrun : (b.call k).run v = (.ok tally, w')) : Runs b api w w'

end Backend

/-- A property of steps that whatever is put together from steps with it has, too. -/
structure Step.Composes (P : ∀ {α : Type}, Step σ α → Prop) : Prop where
  pure {α : Type} (a : α) : P (Pure.pure a : Step σ α)
  bind {α β : Type} {x : Step σ α} {f : α → Step σ β} (hx : P x) (hf : ∀ a, P (f a)) : P (x >>= f)
  outcome {α : Type} {x : Step σ α} (hx : P x) : P (outcome x)

namespace Step.Composes

variable {P : ∀ {α : Type}, Step σ α → Prop} (hP : Step.Composes P) {f : β → Step σ α} {l : List β}

include hP

theorem mapM (hf : ∀ x ∈ l, P (f x)) : P (l.mapM f) := by
  induction l with
  | nil =>
    rw [List.mapM_nil]
    exact hP.pure []
  | cons x l ih =>
    obtain ⟨hfirst, hrest⟩ := List.forall_mem_cons.1 hf
    rw [List.mapM_cons]
    exact hP.bind hfirst fun a => hP.bind (ih hrest) fun rest => hP.pure (a :: rest)

theorem outcomes (hf : ∀ x ∈ l, P (f x)) : P (Step.outcomes f l) := by
  induction l with
  | nil => exact hP.pure []
  | cons x l ih =>
    obtain ⟨hfirst, hrest⟩ := List.forall_mem_cons.1 hf
    refine hP.bind (hP.outcome hfirst) fun result => hP.bind (ih hrest) fun rest => ?_
    exact hP.pure (result :: rest)

end Step.Composes

/-- A property of steps that holds of each step that a class takes, and of whatever is put together
from steps that have it. -/
structure Step.Closed (P : ∀ {α : Type}, Step σ α → Prop) : Prop where
  pure {α : Type} (a : α) : P (Pure.pure a : Step σ α)
  bind {α β : Type} {x : Step σ α} {f : α → Step σ β} (hx : P x) (hf : ∀ a, P (f a)) : P (x >>= f)
  outcome {α : Type} {x : Step σ α} (hx : P x) : P (outcome x)
  note (r : Record) : P (note r)
  session : P session
  ofExcept {α : Type} (result : Except Failure α) : P (ofExcept result)
  attempt {α : Type} (work : Attempt α) : P (attempt work)
  close (o : Output) : P (close o)
  produced (c : ClassDecl) : P (change fun g => { g with produced := c :: g.produced })

namespace Step.Closed

variable {P : ∀ {α : Type}, Step σ α → Prop} (hP : Step.Closed P)

include hP

theorem composes : Composes P := ⟨hP.pure, hP.bind, hP.outcome⟩

variable {b : Backend σ}

theorem produce (c : ClassDecl) : P (b.produce c) :=
  hP.bind hP.session fun _ => hP.bind (hP.attempt _) fun text =>
    hP.bind (hP.produced c) fun _ => hP.pure text

theorem classFile (c : ClassDecl) : P (b.classFile c) := by
  rw [Backend.classFile_eq]
  split
  · exact hP.pure _
  · split
    · exact hP.pure _
    · refine hP.bind (hP.note _) fun _ => hP.bind hP.session fun s => ?_
      refine hP.bind (hP.ofExcept _) fun path => hP.bind (hP.produce c) fun text => ?_
      exact hP.bind (hP.close _) fun written => hP.pure (Tally.one written)

theorem classFiles (parallel : Bool) (classes : List ClassDecl) :
    P (b.classFiles parallel classes) := by
  cases parallel with
  | false => exact hP.composes.mapM fun c _ => hP.classFile c
  | true =>
    refine hP.bind (hP.composes.outcomes fun c _ => hP.classFile c) fun results => ?_
    exact hP.ofExcept (results.mapM id)

theorem tasks (k : Call) : P (b.tasks k) := by
  cases k with
  | workers given =>
    refine hP.bind hP.session fun s => hP.bind (hP.ofExcept _) fun api => ?_
    exact hP.bind (hP.ofExcept _) fun parallel => hP.classFiles parallel _
  | inOrder order =>
    refine hP.bind (hP.composes.outcomes fun c _ => hP.classFile c) fun results => ?_
    exact hP.ofExcept _

end Step.Closed

namespace Step

def KeepsTally (step : Step σ α) : Prop :=
  ∀ w, (step.run w).2.generator.tally = w.generator.tally

theorem keepsTally_change {f : Generator σ → Generator σ} (h : ∀ g, (f g).tally = g.tally) :
    (change f).KeepsTally := fun w => h w.generator

theorem KeepsTally.bind {x : Step σ α} {f : α → Step σ β} (hx : x.KeepsTally)
    (hf : ∀ a, (f a).KeepsTally) : (x >>= f).KeepsTally := by
  intro w
  have hfirst := hx w
  rw [run_bind]
  cases hrun : x.run w with
  | mk result v =>
    rw [hrun] at hfirst
    cases result with
    | error e => exact hfirst
    | ok a => exact (hf a v).trans hfirst

theorem closed_keepsTally : Closed (@KeepsTally σ) where
  pure _ _ := rfl
  bind := KeepsTally.bind
  outcome hx := hx
  note _ _ := rfl
  session _ := rfl
  ofExcept result w := by rw [run_ofExcept]
  attempt work w := by rw [run_attempt]
  close o w := by rw [run_close]
  produced _ := keepsTally_change fun _ => rfl

end Step

namespace Backend

variable {b : Backend σ}

theorem run_setUp (api : Api) (args : Ledger String String) (w : World σ) :
    ∃ log, (b.setUp api args).run w = (.ok (b.setup args w.generator.state).2,
      { generator := { w.generator with
          api := some api
          foundPackage := api.package?.getD ""
          state := (b.setup args w.generator.state).1
          produced := [] }
        disk := w.disk
        log }) := by
  rw [setUp]
  split
  · exact ⟨_, rfl⟩
  · exact ⟨_, rfl⟩

theorem keepsTally_setUp (api : Api) (args : Ledger String String) :
    (b.setUp api args).KeepsTally := by
  intro w
  obtain ⟨log, hrun⟩ := run_setUp (b := b) api args w
  rw [hrun]

theorem conclude_tally (hfinish : b.finish.KeepsTally) (tally : Tally) (w : World σ) :
    ((b.conclude tally).run w).2.generator.tally = tally := by
  have hfinished := hfinish (w.counted tally)
  rw [conclude, Hooks.run_conclude, hooks_finish]
  rcases hrun : b.finish.run (w.counted tally) with ⟨e | ⟨⟩, v⟩
  · rw [hrun] at hfinished
    exact hfinished
  · rw [hrun] at hfinished
    exact hfinished

inductive Deed (σ : Type) where
  | setUp (api : Api) (args : Ledger String String)
  | call (k : Call)
  | produce (c : ClassDecl)
  | finish
  /-- The session or the disk is changed from outside. -/
  | arrange (session : Session σ) (disk : Disk)

def perform (b : Backend σ) (w : World σ) : Deed σ → World σ
  | .setUp api args => ((b.setUp api args).run w).2
  | .call k => ((b.call k).run w).2
  | .produce c => ((b.produce c).run w).2
  | .finish => (b.finish.run w).2
  | .arrange session disk =>
    { w with generator := { w.generator with toSession := session }, disk }

/-- A new generator after deeds, the latest one first. -/
def after (b : Backend σ) (settings : Settings) (disk : Disk) : List (Deed σ) → World σ
  | [] => { generator := b.generator settings, disk }
  | deed :: earlier => b.perform (b.after settings disk earlier) deed

/-- What a deed counts: that of a run whose tasks did not fail, whether or not it then finished. -/
def counted? (b : Backend σ) (w : World σ) : Deed σ → Option Tally
  | .call k => ((b.tasks k).run w).1.toOption.map Tally.sum
  | _ => none

def lastCounted (b : Backend σ) (settings : Settings) (disk : Disk) : List (Deed σ) → Tally
  | [] => {}
  | deed :: earlier =>
    (b.counted? (b.after settings disk earlier) deed).getD (b.lastCounted settings disk earlier)

/-- Only a run that does all its tasks changes the tally. -/
theorem perform_tally (hfinish : b.finish.KeepsTally) (w : World σ) (deed : Deed σ) :
    (b.perform w deed).generator.tally = (b.counted? w deed).getD w.generator.tally := by
  cases deed with
  | setUp api args => exact keepsTally_setUp api args w
  | produce c => exact Step.closed_keepsTally.produce c w
  | finish => exact hfinish w
  | arrange session disk => rfl
  | call k =>
    have hkept := Step.closed_keepsTally.tasks (b := b) k w
    rw [perform, counted?, run_call, Step.run_bind]
    cases htasks : (b.tasks k).run w with
    | mk result v =>
      rw [htasks] at hkept
      cases result with
      | error e => exact hkept
      | ok tallies => exact conclude_tally hfinish (Tally.sum tallies) v

theorem after_tally (hfinish : b.finish.KeepsTally) (settings : Settings) (disk : Disk)
    (deeds : List (Deed σ)) :
    (b.after settings disk deeds).generator.tally = b.lastCounted settings disk deeds := by
  induction deeds with
  | nil => rfl
  | cons deed earlier ih => rw [after, perform_tally hfinish, ih, lastCounted]

end Backend

theorem Wrapper.keepsTally_finish : wrapper.finish.KeepsTally := by
  intro w
  have hkept : (wrapper.finish.run w).2.generator = w.generator := (run_finish w).2.2
  rw [hkept]

theorem Recorder.keepsTally_finish (o : RecorderOptions) : (recorder o).finish.KeepsTally :=
  Step.keepsTally_change fun _ => rfl

end GlueCode
