import GlueCode.Proofs.TaskOrder
import GlueCode.Recorder
import Mathlib.Data.List.Pairwise
/-! # Running again

A run whose outputs are apart leaves a disk on which every one of them was closed. Closing them
again then writes nothing, so a second run counts the same classes and leaves the disk as it is.
The exception is a name that is too long: a directory made by the first run can be what brings it
up, and looking for the file then fails, where making the directory or writing the file was only
reported. -/
namespace GlueCode

variable {σ α β : Type}

theorem Disk.Same.refl (d : Disk) : d.Same d := ⟨rfl, fun _ => rfl⟩

theorem Disk.Same.trans {d d' d'' : Disk} (h : d.Same d') (h' : d'.Same d'') : d.Same d'' where
  home := h'.home.trans h.home
  nodes loc := (h'.nodes loc).trans (h.nodes loc)

theorem World.Agrees.refl (w : World σ) : w.Agrees w := ⟨rfl, fun _ => Iff.rfl, rfl, .refl _⟩

theorem World.counted_session (w : World σ) (tally : Tally) :
    (w.counted tally).generator.toSession = w.generator.toSession := rfl

namespace Step

/-- In every world that agrees with `w` the step has this result and leaves a world that agrees
with `w`. -/
def Idle (w : World σ) (step : Step σ α) (result : Except Failure α) : Prop :=
  ∀ v, w.Agrees v → ∃ v', step.run v = (result, v') ∧ w.Agrees v'

variable {w : World σ} {f : β → Step σ α} {l : List β} {results : List (Except Failure α)}

theorem Idle.mapM (h : List.Forall₂ (fun x r => Idle w (f x) r) l results) :
    Idle w (l.mapM f) (results.mapM id) := by
  induction h with
  | nil =>
    intro v hagrees
    exact ⟨v, rfl, hagrees⟩
  | @cons x r l results hfirst _ ih =>
    intro v hagrees
    obtain ⟨v₁, hrun, hagrees₁⟩ := hfirst v hagrees
    rw [List.mapM_cons, List.mapM_cons, run_bind, hrun]
    cases r with
    | error e => exact ⟨v₁, rfl, hagrees₁⟩
    | ok a =>
      obtain ⟨v₂, hrest, hagrees₂⟩ := ih v₁ hagrees₁
      refine ⟨v₂, ?_, hagrees₂⟩
      simp only [run_bind, hrest]
      cases results.mapM id <;> rfl

theorem Idle.outcomes (h : List.Forall₂ (fun x r => Idle w (f x) r) l results) :
    Idle w (outcomes f l) (.ok results) := by
  induction h with
  | nil =>
    intro v hagrees
    exact ⟨v, rfl, hagrees⟩
  | @cons x r l results hfirst _ ih =>
    intro v hagrees
    obtain ⟨v₁, hrun, hagrees₁⟩ := hfirst v hagrees
    obtain ⟨v₂, hrest, hagrees₂⟩ := ih v₁ hagrees₁
    refine ⟨v₂, ?_, hagrees₂⟩
    rw [Step.outcomes, run_bind, run_outcome, hrun]
    simp only [run_bind, hrest]
    rfl

end Step

namespace Backend

variable {b : Backend σ} {w w' : World σ}

theorem idle_classFiles {classes : List ClassDecl} {results : List (Except Failure Tally)}
    (h : List.Forall₂ (fun c r => Step.Idle w (b.classFile c) r) classes results)
    (parallel : Bool) : Step.Idle w (b.classFiles parallel classes) (results.mapM id) := by
  cases parallel with
  | false => exact Step.Idle.mapM h
  | true =>
    intro v hagrees
    obtain ⟨v', hrun, hagrees'⟩ := Step.Idle.outcomes h v hagrees
    refine ⟨v', ?_, hagrees'⟩
    rw [classFiles, Hooks.classFiles, if_pos rfl, Step.run_bind, ← classFile, hrun]
    exact Step.run_ofExcept _ _

theorem run_classFile_skips {c : ClassDecl} (h : b.Skips c) (v : World σ) :
    (b.classFile c).run v = (.ok {}, v) := by
  rw [classFile, Hooks.classFile, Step.run_bind, run_output?_skips h]
  rfl

theorem run_classFile_output {c : ClassDecl} {o : Output} {v : World σ}
    (h : b.output? v.generator.toSession c = some o) :
    ∃ log, (b.classFile c).run v = ((Step.answer (o.close v.disk).written).map Tally.one,
      { generator := { v.generator with produced := c :: v.generator.produced }
        disk := (o.close v.disk).disk
        log }) := by
  obtain ⟨new, hasked⟩ := run_output?_some h
  refine ⟨v.log ++ new ++ (o.close v.disk).log, ?_⟩
  rw [classFile, Hooks.classFile, Step.run_bind, hasked]
  simp only [Step.run_bind, Step.run_close]
  cases Step.answer (o.close v.disk).written <;> rfl

def closeLast (last : Except Failure (Option Output)) (d : Disk) : Except Failure Unit × Disk :=
  match last with
  | .error e => (.error e, d)
  | .ok none => (.ok (), d)
  | .ok (some o) => ((Step.answer (o.close d).written).map fun _ => (), (o.close d).disk)

structure SameOutputs (b : Backend σ) (last : Generator σ → Except Failure (Option Output))
    (g other : Generator σ) : Prop where
  api : other.api = g.api
  produced : other.produced = g.produced
  output? : ∀ c, b.output? other.toSession c = b.output? g.toSession c
  last : last other = last g

/-- The backend finishes by closing one output or none. Which one it is follows from the session and
the classes that were produced, and finishing changes nothing that outputs depend on. -/
structure FinishesBy (b : Backend σ) (last : Generator σ → Except Failure (Option Output)) :
    Prop where
  result : ∀ v, (b.finish.run v).1 = (closeLast (last v.generator) v.disk).1
  disk : ∀ v, (b.finish.run v).2.disk = (closeLast (last v.generator) v.disk).2
  keeps : ∀ v, b.SameOutputs last v.generator (b.finish.run v).2.generator
  isOpen : ∀ {g o}, last g = .ok (some o) → o.finished = false
  congr : ∀ {g other : Generator σ}, other.toSession = g.toSession →
    (∀ c, c ∈ other.produced ↔ c ∈ g.produced) → last other = last g

def allOutputs (b : Backend σ) (last : Generator σ → Except Failure (Option Output))
    (g : Generator σ) (api : Api) : List Output :=
  b.outputs g.toSession api.classes ++ (last g).toOption.join.toList

variable {last : Generator σ → Except Failure (Option Output)} {d₀ : Disk} {api : Api}

/-- The world after a run that did not fail. -/
structure Ended (b : Backend σ) (last : Generator σ → Except Failure (Option Output)) (d₀ : Disk)
    (api : Api) (w : World σ) : Prop where
  isSetUp : w.generator.api = some api
  ready : ∀ c ∈ api.classes,
    b.Skips c ∨ (∃ o, b.output? w.generator.toSession c = some o) ∧ c ∈ w.generator.produced
  finishes : ∃ o?, last w.generator = .ok o?
  settled : ∃ done, Output.AllSettled d₀ done w.disk ∧
    ∀ o, o ∈ done ↔ o ∈ b.allOutputs last w.generator api

theorem TaskDone.skips_or {c : ClassDecl} {t : Tally} (h : b.TaskDone w c t w') :
    b.Skips c ∨ ∃ o, b.output? w.generator.toSession c = some o := by
  cases h with
  | skipped hskip => exact .inl hskip
  | closed log hsome => exact .inr ⟨_, hsome⟩

theorem TasksDone.skips_or {classes : List ClassDecl} {tallies : List Tally}
    (h : b.TasksDone w classes tallies w') :
    ∀ c ∈ classes, b.Skips c ∨ ∃ o, b.output? w.generator.toSession c = some o := by
  induction h with
  | nil => simp
  | cons hfirst hrest ih =>
    intro c hc
    rcases List.mem_cons.1 hc with rfl | hc
    · exact hfirst.skips_or
    · rw [← hfirst.session.1]
      exact ih c hc

theorem closeLast_settles {done : List Output} {d d' : Disk} {last : Except Failure (Option Output)}
    (h₀ : d₀.IsTree) (hdone : Output.AllSettled d₀ done d)
    (hclose : closeLast last d = (.ok (), d'))
    (hlast : ∀ o, last = .ok (some o) → o.finished = false ∧ ".." ∉ o.path.components ∧
      ∀ other ∈ done, Output.Apart d₀ other o) :
    ∃ o?, last = .ok o? ∧ Output.AllSettled d₀ (o?.toList ++ done) d' := by
  cases last with
  | error e => simp [closeLast] at hclose
  | ok o? =>
    refine ⟨o?, rfl, ?_⟩
    cases o? with
    | none =>
      obtain rfl : d = d' := by simpa [closeLast] using hclose
      exact hdone
    | some o =>
      obtain ⟨hopen, hplain, hapart⟩ := hlast o rfl
      obtain ⟨hanswer, rfl⟩ := Prod.mk.inj hclose
      cases hwritten : (o.close d).written with
      | error e =>
        rw [hwritten] at hanswer
        cases hanswer
      | ok b =>
        have haccepted := Output.accepted_of_close hdone.tree hplain hopen hwritten
        have hsettled := (Output.close_settles hdone.tree hplain hopen hwritten).2
        exact hdone.cons h₀ hapart haccepted hsettled

theorem FinishesBy.conclude_ok {v : World σ} {t tally : Tally} (hfinish : b.FinishesBy last)
    (h : (b.conclude t).run v = (.ok tally, w')) :
    tally = t ∧ b.SameOutputs last (v.counted t).generator w'.generator ∧
      closeLast (last w'.generator) v.disk = (.ok (), w'.disk) := by
  obtain ⟨rfl, u, hu, hgenerator, hdisk, -⟩ := Backend.conclude_ok h
  change b.finish.run (v.counted tally) = (.ok (), u) at hu
  have hkept := hfinish.keeps (v.counted tally)
  have hresult := hfinish.result (v.counted tally)
  have hleft := hfinish.disk (v.counted tally)
  rw [hu, ← hgenerator] at hkept
  rw [hu, ← hkept.last] at hresult hleft
  exact ⟨rfl, hkept, Prod.ext hresult.symm (hdisk.trans hleft).symm⟩

theorem ended_of_generate {workers : Json} {tally : Tally} (hfinish : b.FinishesBy last)
    (htree : w.disk.IsTree) (hapi : w.generator.api = some api)
    (hrun : (b.generate workers).run w = (.ok tally, w'))
    (hplain : ∀ o ∈ b.allOutputs last w'.generator api, ".." ∉ o.path.components)
    (hapart : (b.allOutputs last w'.generator api).Pairwise (Output.Apart w.disk)) :
    b.Ended last w.disk api w' ∧
      tally.generated = (b.outputs w'.generator.toSession api.classes).length := by
  obtain ⟨tallies, v, hdone, hend⟩ := generate_ok hapi hrun
  obtain ⟨rfl, hkept, hclose⟩ := hfinish.conclude_ok hend
  have hsession := hdone.session.1
  have houtput : ∀ c, b.output? w'.generator.toSession c = b.output? w.generator.toSession c := by
    intro c
    rw [hkept.output?, World.counted_session, hsession]
  have houtputs : b.outputs w'.generator.toSession api.classes =
      b.outputs w.generator.toSession api.classes :=
    List.filterMap_congr fun c _ => houtput c
  rw [allOutputs, houtputs] at hplain hapart
  obtain ⟨hclasses, -, hcross⟩ := List.pairwise_append.1 hapart
  obtain ⟨done, hsettled, hmem⟩ := hdone.settles htree
    (fun o ho => hplain o (List.mem_append_left _ ho)) hclasses
  have hlast : ∀ o, last w'.generator = .ok (some o) → o.finished = false ∧
      ".." ∉ o.path.components ∧ ∀ other ∈ done, Output.Apart w.disk other o := by
    intro o ho
    have hmem' : o ∈ (last w'.generator).toOption.join.toList := by simp [ho, Except.toOption]
    refine ⟨hfinish.isOpen ho, hplain o (List.mem_append_right _ hmem'), fun other hother => ?_⟩
    exact hcross other ((hmem other).1 hother) o hmem'
  obtain ⟨o?, ho?, hsettled'⟩ := closeLast_settles htree hsettled hclose hlast
  refine ⟨⟨?_, fun c hc => ?_, ⟨o?, ho?⟩, o?.toList ++ done, hsettled', fun o => ?_⟩, ?_⟩
  · rw [hkept.api]
    exact (congrArg Session.api hsession).trans hapi
  · rcases hdone.skips_or c hc with hskip | ⟨o, ho⟩
    · exact .inl hskip
    · refine .inr ⟨⟨o, (houtput c).trans ho⟩, ?_⟩
      rw [hkept.produced]
      exact (hdone.produced c).2 (.inr ⟨hc, by simp [ho]⟩)
  · rw [allOutputs, houtputs, ho?]
    simp [hmem, Except.toOption, or_comm]
  · rw [hdone.generated, houtputs]

theorem allOutputs_open (hfinish : b.FinishesBy last) {g : Generator σ} {o : Output}
    (h : o ∈ b.allOutputs last g api) : o.finished = false := by
  rcases List.mem_append.1 h with hclass | hlast
  · obtain ⟨c, -, hc⟩ := List.mem_filterMap.1 hclass
    exact output?_open hc
  · cases hresult : last g with
    | error e => simp [hresult, Except.toOption] at hlast
    | ok o? =>
      obtain rfl : o? = some o := by simpa [hresult, Except.toOption] using hlast
      exact hfinish.isOpen hresult

theorem Ended.isIdle (hfinish : b.FinishesBy last) (h₀ : d₀.IsTree) (h : b.Ended last d₀ api w)
    (hplain : ∀ o ∈ b.allOutputs last w.generator api, ".." ∉ o.path.components)
    (hreturn : ∀ o ∈ b.allOutputs last w.generator api, '\r' ∉ o.text.toList)
    (hapart : (b.allOutputs last w.generator api).Pairwise (Output.Apart d₀)) :
    ∀ o ∈ b.allOutputs last w.generator api, o.IsIdle w.disk := by
  intro o ho
  obtain ⟨done, hsettled, hmem⟩ := h.settled
  refine hsettled.isIdle h₀ ((hmem o).2 ho) (hplain o ho) (allOutputs_open hfinish ho)
    (hreturn o ho) fun other hother hne => ?_
  exact hapart.forall ((hmem other).1 hother) ho hne

inductive Again (b : Backend σ) (w : World σ) (c : ClassDecl) : Except Failure Tally → Prop where
  | skipped (hskip : b.Skips c) : Again b w c (.ok {})
  | idle {o : Output} (hsome : b.output? w.generator.toSession c = some o)
    (hshort : ¬w.disk.MeetsLongName o.path) : Again b w c (.ok (.one false))
  | refused {o : Output} (hsome : b.output? w.generator.toSession c = some o)
    (hlong : w.disk.MeetsLongName o.path) : Again b w c (.error (.unnameable .tooLong))

theorem idle_classFile {c : ClassDecl} {o : Output}
    (hsome : b.output? w.generator.toSession c = some o) (hproduced : c ∈ w.generator.produced)
    (hidle : w.disk.Same (o.close w.disk).disk) :
    Step.Idle w (b.classFile c) ((Step.answer (o.close w.disk).written).map Tally.one) := by
  intro v hagrees
  have hsame := Output.close_same hagrees.disk o
  rw [← hagrees.session] at hsome
  obtain ⟨log, hrun⟩ := run_classFile_output hsome
  rw [hsame.written] at hrun
  refine ⟨_, hrun, hagrees.session, fun x => ?_, hagrees.tally, hidle.trans hsame.disk⟩
  rw [List.mem_cons, hagrees.produced]
  constructor
  · rintro (rfl | hx)
    · exact hproduced
    · exact hx
  · exact .inr

theorem classFile_again {c : ClassDecl}
    (hready : b.Skips c ∨ (∃ o, b.output? w.generator.toSession c = some o) ∧
      c ∈ w.generator.produced)
    (hidle : ∀ o, b.output? w.generator.toSession c = some o → o.IsIdle w.disk) :
    ∃ result, b.Again w c result ∧ Step.Idle w (b.classFile c) result := by
  rcases hready with hskip | ⟨⟨o, hsome⟩, hproduced⟩
  · refine ⟨_, .skipped hskip, ?_⟩
    intro v hagrees
    exact ⟨v, run_classFile_skips hskip v, hagrees⟩
  · obtain ⟨hsame, hanswer⟩ := hidle o hsome
    have hrun := idle_classFile hsome hproduced hsame
    rcases hanswer with ⟨hlong, hwritten⟩ | ⟨hshort, hwritten⟩
    · rw [hwritten] at hrun
      exact ⟨_, .refused hsome hlong, hrun⟩
    · rw [hwritten] at hrun
      exact ⟨_, .idle hsome hshort, hrun⟩

/-- All classes are counted and none as written, or the first name that is too long counts. -/
theorem results_again {classes : List ClassDecl} {results : List (Except Failure Tally)}
    (h : List.Forall₂ (b.Again w) classes results) :
    (∃ o ∈ b.outputs w.generator.toSession classes, w.disk.MeetsLongName o.path) ∧
        results.mapM id = .error (.unnameable .tooLong) ∨
      (∀ o ∈ b.outputs w.generator.toSession classes, ¬w.disk.MeetsLongName o.path) ∧
        ∃ tallies, results.mapM id = .ok tallies ∧
          Tally.sum tallies = ⟨(b.outputs w.generator.toSession classes).length, 0⟩ := by
  induction h with
  | nil => exact .inr ⟨by simp [outputs], [], rfl, rfl⟩
  | @cons c result classes results hfirst _ ih =>
    rw [outputs_cons, List.mapM_cons]
    cases hfirst with
    | refused hsome hlong =>
      refine .inl ⟨⟨_, List.mem_append_left _ (by simp [hsome]), hlong⟩, rfl⟩
    | skipped hskip =>
      rcases ih with ⟨hlong, hrest⟩ | ⟨hshort, tallies, hrest, hsum⟩
      · refine .inl ⟨by simpa [hskip.output?_eq_none] using hlong, ?_⟩
        rw [hrest]
        rfl
      · refine .inr ⟨by simpa [hskip.output?_eq_none] using hshort, {} :: tallies, ?_, ?_⟩
        · rw [hrest]
          rfl
        · rw [Tally.sum_cons, hsum, hskip.output?_eq_none, Tally.mk_add_mk]
          simp
    | @idle o hsome hfits =>
      rcases ih with ⟨hlong, hrest⟩ | ⟨hshort, tallies, hrest, hsum⟩
      · refine .inl ⟨by simpa [hsome] using .inr hlong, ?_⟩
        rw [hrest]
        rfl
      · refine .inr ⟨by simpa [hsome] using ⟨hfits, hshort⟩, .one false :: tallies, ?_, ?_⟩
        · rw [hrest]
          rfl
        · rw [Tally.sum_cons, hsum, hsome, Tally.one, Tally.mk_add_mk]
          simp
          omega

theorem closeLast_again {o? : Option Output} {d d' : Disk} (hsame : d.Same d')
    (hidle : ∀ o ∈ o?, o.IsIdle d) :
    d.Same (closeLast (.ok o?) d').2 ∧
      ((∃ o ∈ o?, d.MeetsLongName o.path) ∧
          (closeLast (.ok o?) d').1 = .error (.unnameable .tooLong) ∨
        (∀ o ∈ o?, ¬d.MeetsLongName o.path) ∧ (closeLast (.ok o?) d').1 = .ok ()) := by
  cases o? with
  | none => exact ⟨hsame, .inr ⟨by simp, rfl⟩⟩
  | some o =>
    obtain ⟨hkept, hanswer⟩ := hidle o rfl
    have hclose := Output.close_same hsame o
    refine ⟨hkept.trans hclose.disk, ?_⟩
    rw [closeLast, hclose.written]
    rcases hanswer with ⟨hlong, hwritten⟩ | ⟨hshort, hwritten⟩
    · exact .inl ⟨⟨o, rfl, hlong⟩, by rw [hwritten]; rfl⟩
    · exact .inr ⟨by simpa using hshort, by rw [hwritten]; rfl⟩

theorem run_conclude (tally : Tally) (v : World σ) :
    ((b.conclude tally).run v).1 = (b.finish.run (v.counted tally)).1.map (fun _ => tally) ∧
      ((b.conclude tally).run v).2.disk = (b.finish.run (v.counted tally)).2.disk := by
  rw [conclude, Hooks.run_conclude, hooks_finish]
  rcases b.finish.run (v.counted tally) with ⟨e | ⟨⟩, u⟩
  · exact ⟨rfl, rfl⟩
  · exact ⟨rfl, rfl⟩

theorem run_generate_single {v u : World σ} {workers : Json} {c : ClassDecl} {t : Tally}
    (hapi : w.generator.api = some api) (hclasses : api.classes = [c])
    (hworkers : w.generator.isParallel workers = .ok false)
    (hclass : (b.classFile c).run w = (.ok t, v))
    (hfinish : b.finish.run (v.counted (Tally.sum [t])) = (.ok (), u)) :
    ∃ log, (b.generate workers).run w = (.ok (Tally.sum [t]), { u with log }) := by
  have hfiles : (b.classFiles false api.classes).run w = (.ok [t], v) := by
    rw [classFiles, Hooks.classFiles, if_neg Bool.false_ne_true, hclasses]
    exact Step.InTurn.mapM (.cons hclass (.nil v))
  rw [run_generate hapi hworkers, Step.run_bind, hfiles]
  simp only [conclude, Hooks.run_conclude, hooks_finish, hfinish]
  exact ⟨_, rfl⟩

theorem conclude_again {o? : Option Output} {v : World σ} (hfinish : b.FinishesBy last)
    (hlast : last w.generator = .ok o?) (hidle : ∀ o ∈ o?, o.IsIdle w.disk) (tally : Tally)
    (hagrees : w.Agrees v) :
    w.disk.Same ((b.conclude tally).run v).2.disk ∧
      ((∃ o ∈ o?, w.disk.MeetsLongName o.path) ∧
          ((b.conclude tally).run v).1 = .error (.unnameable .tooLong) ∨
        (∀ o ∈ o?, ¬w.disk.MeetsLongName o.path) ∧ ((b.conclude tally).run v).1 = .ok tally) := by
  obtain ⟨hresult, hdisk⟩ := run_conclude (b := b) tally v
  have hsame : last (v.counted tally).generator = last w.generator :=
    hfinish.congr hagrees.session hagrees.produced
  have hagrees' : w.disk.Same (v.counted tally).disk := hagrees.disk
  obtain ⟨hkept, hcases⟩ := closeLast_again hagrees' hidle
  rw [hresult, hdisk, hfinish.result, hfinish.disk, hsame, hlast]
  refine ⟨hkept, ?_⟩
  rcases hcases with ⟨hlong, hclosed⟩ | ⟨hshort, hclosed⟩
  · exact .inl ⟨hlong, by rw [hclosed]; rfl⟩
  · exact .inr ⟨hshort, by rw [hclosed]; rfl⟩

theorem Ended.generate_again {again : Json} {parallel : Bool} (hfinish : b.FinishesBy last)
    (h : b.Ended last d₀ api w) (hworkers : w.generator.isParallel again = .ok parallel)
    (hidle : ∀ o ∈ b.allOutputs last w.generator api, o.IsIdle w.disk) :
    w.disk.Same ((b.generate again).run w).2.disk ∧
      ((∃ o ∈ b.allOutputs last w.generator api, w.disk.MeetsLongName o.path) ∧
          ((b.generate again).run w).1 = .error (.unnameable .tooLong) ∨
        (∀ o ∈ b.allOutputs last w.generator api, ¬w.disk.MeetsLongName o.path) ∧
          ((b.generate again).run w).1 =
            .ok ⟨(b.outputs w.generator.toSession api.classes).length, 0⟩) := by
  obtain ⟨results, hresults⟩ : ∃ results, List.Forall₂
      (fun c r => b.Again w c r ∧ Step.Idle w (b.classFile c) r) api.classes results := by
    have hclass : ∀ c ∈ api.classes, ∃ r, b.Again w c r ∧ Step.Idle w (b.classFile c) r :=
      fun c hc => classFile_again (h.ready c hc) fun o ho =>
        hidle o (List.mem_append_left _ (List.mem_filterMap.2 ⟨c, hc, ho⟩))
    choose! r hr using hclass
    exact ⟨api.classes.map r, List.forall₂_map_right_iff.2 (List.forall₂_same.2 hr)⟩
  obtain ⟨v, hrun, hagrees⟩ :=
    idle_classFiles (hresults.imp fun _ _ h => h.2) parallel w (.refl w)
  rw [run_generate h.isSetUp hworkers, Step.run_bind, hrun, allOutputs]
  rcases results_again (hresults.imp fun _ _ h => h.1) with
    ⟨⟨o, ho, hlong⟩, hfirst⟩ | ⟨hshort, tallies, hall, hsum⟩
  · rw [hfirst]
    exact ⟨hagrees.disk, .inl ⟨⟨o, List.mem_append_left _ ho, hlong⟩, rfl⟩⟩
  · rw [hall]
    obtain ⟨o?, hlast⟩ := h.finishes
    have hlist : (last w.generator).toOption.join.toList = o?.toList := by
      simp [hlast, Except.toOption]
    have hshortAll : ∀ o ∈ o?, o.IsIdle w.disk := fun o ho =>
      hidle o (List.mem_append_right _ (by simp [hlist, Option.mem_def.1 ho]))
    obtain ⟨hkept, hcases⟩ := conclude_again hfinish hlast hshortAll (Tally.sum tallies) hagrees
    refine ⟨hkept, ?_⟩
    rw [hlist]
    rcases hcases with ⟨⟨o, ho, hlong⟩, hresult⟩ | ⟨hshort', hresult⟩
    · exact .inl ⟨⟨o, List.mem_append_right _ (by simpa using ho), hlong⟩, hresult⟩
    · refine .inr ⟨fun o ho => ?_, hresult.trans (by rw [hsum])⟩
      rcases List.mem_append.1 ho with ho | ho
      · exact hshort o ho
      · exact hshort' o (by simpa using ho)

end Backend

/-! ## The backends -/

theorem Recorder.finishesBy (o : RecorderOptions) : (recorder o).FinishesBy fun _ => .ok none where
  result _ := rfl
  disk _ := rfl
  keeps _ := ⟨rfl, rfl, fun _ => rfl, rfl⟩
  isOpen h := by cases h
  congr _ _ := rfl

namespace Wrapper

def indexOutput (g : Generator WrapperState) : Except Failure (Option Output) := do
  let names := indexNames g (← g.requireApi)
  if names.isEmpty then return none
  let moduleName := orFallback (← g.moduleName)
  let path ← indexFile g.toSession moduleName
  let text ← indexText g.toSession moduleName names
  return some { path, text }

theorem run_finish (v : World WrapperState) :
    (finish.run v).1 = (Backend.closeLast (indexOutput v.generator) v.disk).1 ∧
      (finish.run v).2.disk = (Backend.closeLast (indexOutput v.generator) v.disk).2 ∧
      (finish.run v).2.generator = v.generator := by
  have hok : ∀ {α β : Type} (a : α) (f : α → Except Failure β), (.ok a >>= f) = f a :=
    fun _ _ => rfl
  rw [finish, indexOutput, Step.run_generator_bind, Step.run_ofExcept_bind]
  cases v.generator.requireApi with
  | error e => exact ⟨rfl, rfl, rfl⟩
  | ok api =>
    dsimp only
    rw [hok]
    by_cases hnames : (indexNames v.generator api).isEmpty = true
    · rw [if_pos hnames, if_pos hnames]
      exact ⟨rfl, rfl, rfl⟩
    · rw [if_neg hnames, if_neg hnames, Step.run_ofExcept_bind]
      cases v.generator.moduleName with
      | error e => exact ⟨rfl, rfl, rfl⟩
      | ok found =>
        dsimp only
        rw [hok, Step.run_ofExcept_bind]
        cases indexFile v.generator.toSession (orFallback found) with
        | error e => exact ⟨rfl, rfl, rfl⟩
        | ok path =>
          dsimp only
          rw [hok, Step.run_ofExcept_bind]
          cases indexText v.generator.toSession (orFallback found) (indexNames v.generator api) with
          | error e => exact ⟨rfl, rfl, rfl⟩
          | ok text =>
            dsimp only
            rw [hok, Step.run_bind, Step.run_close]
            change _ = ((Step.answer (Output.close { path, text } v.disk).written).map fun _ => ()) ∧
              _ = (Output.close { path, text } v.disk).disk ∧ _
            rcases Step.answer (Output.close { path, text } v.disk).written with e | written
            · exact ⟨rfl, rfl, rfl⟩
            · cases written <;> exact ⟨rfl, rfl, rfl⟩

theorem indexOutput_congr {g other : Generator WrapperState}
    (hs : other.toSession = g.toSession) (hp : ∀ c, c ∈ other.produced ↔ c ∈ g.produced) :
    indexOutput other = indexOutput g := by
  have hnames : ∀ api, indexNames other api = indexNames g api := indexNames_congr hp
  simp only [indexOutput, hs, hnames]

theorem indexOutput_open {g : Generator WrapperState} {o : Output}
    (h : indexOutput g = .ok (some o)) : o.finished = false := by
  simp only [indexOutput, bind, Except.bind, pure, Except.pure] at h
  split at h
  · cases h
  · split at h
    · cases h
    · split at h
      · cases h
      · split at h
        · cases h
        · split at h
          · cases h
          · obtain rfl := Option.some.inj (Except.ok.inj h)
            rfl

theorem finishesBy : wrapper.FinishesBy indexOutput where
  result v := (run_finish v).1
  disk v := (run_finish v).2.1
  keeps v := by
    have hsame : (wrapper.finish.run v).2.generator = v.generator := (run_finish v).2.2
    rw [hsame]
    exact ⟨rfl, rfl, fun _ => rfl, rfl⟩
  isOpen := indexOutput_open
  congr := indexOutput_congr

end Wrapper

namespace Backend

variable {b : Backend σ} {last : Generator σ → Except Failure (Option Output)} {w w' : World σ}
  {api : Api}

/-- A second run, right after one that did not fail, leaves the disk as it is and counts the same
classes with no file written, unless a name that is too long comes up. The wrapper and the recorder
are among the backends this is about. -/
theorem second_run_idle {workers again : Json} {tally : Tally} {parallel : Bool}
    (hfinish : b.FinishesBy last) (htree : w.disk.IsTree) (hapi : w.generator.api = some api)
    (hrun : (b.generate workers).run w = (.ok tally, w'))
    (hplain : ∀ o ∈ b.allOutputs last w'.generator api, ".." ∉ o.path.components)
    (hreturn : ∀ o ∈ b.allOutputs last w'.generator api, '\r' ∉ o.text.toList)
    (hapart : (b.allOutputs last w'.generator api).Pairwise (Output.Apart w.disk))
    (hworkers : w'.generator.isParallel again = .ok parallel) :
    (w'.disk.Same ((b.generate again).run w').2.disk ∧
      ((∀ o ∈ b.allOutputs last w'.generator api, ¬w'.disk.MeetsLongName o.path) →
        ((b.generate again).run w').1 = .ok ⟨tally.generated, 0⟩) ∧
      ∀ o ∈ b.allOutputs last w'.generator api, w'.disk.MeetsLongName o.path →
        ((b.generate again).run w').1 = .error (.unnameable .tooLong)) ∧
    wrapper.FinishesBy Wrapper.indexOutput ∧
      ∀ o, (recorder o).FinishesBy fun _ => .ok none := by
  refine ⟨?_, Wrapper.finishesBy, Recorder.finishesBy⟩
  obtain ⟨hended, hcount⟩ := ended_of_generate hfinish htree hapi hrun hplain hapart
  have hidle := hended.isIdle hfinish htree hplain hreturn hapart
  obtain ⟨hsame, hcases⟩ := hended.generate_again hfinish hworkers hidle
  rw [hcount]
  rcases hcases with ⟨⟨o, ho, hlong⟩, hresult⟩ | ⟨hshort, hresult⟩
  · exact ⟨hsame, fun hshort => absurd hlong (hshort o ho), fun _ _ _ => hresult⟩
  · exact ⟨hsame, fun _ => hresult, fun o ho hlong => absurd hlong (hshort o ho)⟩

theorem pair_again :
    ((wrapper.generate .null).run (Wrapper.pairWorld "Foo" "Bar")).2.disk.Same
        ((wrapper.generate .null).run
          ((wrapper.generate .null).run (Wrapper.pairWorld "Foo" "Bar")).2).2.disk ∧
      ((wrapper.generate .null).run
        ((wrapper.generate .null).run (Wrapper.pairWorld "Foo" "Bar")).2).1 = .ok ⟨2, 0⟩ := by
  have hrun : ((wrapper.generate .null).run (Wrapper.pairWorld "Foo" "Bar")).1 =
      .ok ⟨2, 2⟩ := by decide +kernel
  have houtputs : ∀ o ∈ wrapper.allOutputs Wrapper.indexOutput
      ((wrapper.generate .null).run (Wrapper.pairWorld "Foo" "Bar")).2.generator
      (Wrapper.pairApi "Foo" "Bar"), ".." ∉ o.path.components ∧ '\r' ∉ o.text.toList ∧
        ∀ c ∈ o.path.components, Path.fitsComponent c = true := by decide +kernel
  have hapart : (wrapper.allOutputs Wrapper.indexOutput
      ((wrapper.generate .null).run (Wrapper.pairWorld "Foo" "Bar")).2.generator
      (Wrapper.pairApi "Foo" "Bar")).Pairwise
        (Output.Apart (Wrapper.pairWorld "Foo" "Bar").disk) := by decide +kernel
  have hworkers : ((wrapper.generate .null).run
      (Wrapper.pairWorld "Foo" "Bar")).2.generator.isParallel .null = .ok false := by
    decide +kernel
  obtain ⟨⟨hsame, hidle, -⟩, -⟩ := second_run_idle Wrapper.finishesBy (Disk.blank_isTree _) rfl
    (Step.run_of_result hrun) (fun o ho => (houtputs o ho).1) (fun o ho => (houtputs o ho).2.1)
    hapart hworkers
  exact ⟨hsame, hidle fun o ho => Disk.not_meetsLongName (houtputs o ho).2.2⟩

end Backend

namespace Recorder

def longName : String := String.ofList (List.replicate 256 'p')

def longClass : ClassDecl :=
  { handle := 1, name := "Foo", package := longName
    entry := { handle := 2, kind := .object, name := "Foo" } }

def longApi : Api := { classes := [longClass] }

def longWorld : World RecorderState :=
  { generator := { (recorder {}).generator {} with api := some longApi }
    disk := .blank ["home"] }

def longOutput : Output :=
  { path := ⟨.relative, ["out", longName, "foo.txt"]⟩, text := "class Foo\n" }

theorem longName_toList : longName.toList = List.replicate 256 'p' := String.toList_ofList

theorem longName_isLong : longName.isEmpty = false ∧ Path.fitsComponent longName = false ∧
    Path.ofString (Text.packageDirectory longName "") = ⟨.relative, [longName]⟩ := by
  have hempty : longName.isEmpty = false := by decide +kernel
  refine ⟨hempty, by decide +kernel, ?_⟩
  have hname : Text.packageDirectory longName "" = longName := by
    rw [Text.packageDirectory, hempty, Text.replaceDots, if_neg (by simp), longName_toList]
    decide +kernel
  rw [hname, Path.ofString, longName_toList]
  decide +kernel

theorem fitsComponent_longName : Path.fitsComponent longName = false := longName_isLong.2.1

theorem output?_longClass {v : World RecorderState} (hs : v.generator.settings = {}) :
    (recorder {}).output? v.generator.toSession longClass = some longOutput := by
  obtain ⟨hempty, -, hlong⟩ := longName_isLong
  have hdirectory : v.generator.outputDirectory = .ok (Path.ofString "out") := by
    rw [Session.outputDirectory, hs]
  have hpath : v.generator.classPath longClass "foo.txt" = .ok longOutput.path := by
    have hinner : v.generator.subDirectory longName =
        .ok (Text.packageDirectory longName "") := by
      rw [Session.subDirectory, hempty]
      rfl
    simp only [Session.classPath, hdirectory, longClass, hinner, bind, Except.bind, pure,
      Except.pure, hlong]
    rfl
  have hfile : (recorder {}).fileName? longClass = some "foo.txt" := rfl
  have hvalue : (classText {} longClass).run.value = .ok "class Foo\n" := rfl
  have htext : ((recorder {}).classText v.generator.toSession longClass).run.value =
      .ok "class Foo\n" := hvalue
  have htarget : longClass.entry.wanted.target = true := rfl
  simp only [Backend.output?, htarget, hfile, hpath, htext, if_true]
  rfl

theorem longOutput_isPlain : longOutput.path.isNameable = true ∧ longOutput.path.fits = true ∧
    ".." ∉ longOutput.path.components := by
  refine ⟨?_, ?_, by decide +kernel⟩
  · simp only [Path.isNameable, longOutput, List.all_cons, longName_toList]
    decide +kernel
  · have htext : longOutput.path.text = String.ofList
        (['o', 'u', 't', '/'] ++ List.replicate 256 'p' ++
          ['/', 'f', 'o', 'o', '.', 't', 'x', 't']) := by
      simp only [Path.text, longOutput, List.map_cons, longName_toList]
      decide +kernel
    rw [Path.fits, htext]
    decide +kernel

theorem longOutput_plain : ".." ∉ longOutput.path.components := longOutput_isPlain.2.2

theorem longOutput_closes : ∃ b, (longOutput.close longWorld.disk).written = .ok b := by
  obtain ⟨hnameable, hfits, hplain⟩ := longOutput_isPlain
  have hlocate : longWorld.disk.locate longOutput.path = .error .missing := by
    rw [Disk.locate, hfits]
    rfl
  have htree : longWorld.disk.IsTree := Disk.blank_isTree _
  rcases (Output.Accepted.nameable hnameable hfits).close htree hplain rfl with
    ⟨hlong, -⟩ | ⟨-, hb⟩
  · rw [← Disk.locate_tooLong_iff htree hplain hfits, hlocate] at hlong
    cases hlong
  · exact hb

theorem longOutput_onWay {done : List Output} (h : longOutput ∈ done) :
    Output.OnWay longWorld.disk done ["home", "out"] := by
  have hplace : longWorld.disk.place longOutput.path = ["home", "out", longName, "foo.txt"] := rfl
  refine ⟨longOutput, h, ?_, ?_, ?_⟩
  · rw [hplace]
    exact ⟨[longName, "foo.txt"], rfl⟩
  · rw [hplace]
    intro heq
    simp at heq
  · exact ⟨["home"], "out", [], rfl, rfl, rfl, by decide⟩

theorem longWorld_runs : ∃ tally w',
    ((recorder {}).generate .null).run longWorld = (.ok tally, w') ∧
      w'.generator.settings = {} := by
  obtain ⟨b, hb⟩ := longOutput_closes
  obtain ⟨v, hclass, hsettings⟩ : ∃ v, ((recorder {}).classFile longClass).run longWorld =
      (.ok (.one b), v) ∧ v.generator.settings = {} := by
    obtain ⟨log, hrun⟩ := Backend.run_classFile_output (output?_longClass (v := longWorld) rfl)
    rw [hb] at hrun
    exact ⟨_, hrun, rfl⟩
  have hapi : longWorld.generator.api = some longApi := rfl
  have hworkers : longWorld.generator.isParallel .null = .ok false := rfl
  obtain ⟨log, hrun⟩ := Backend.run_generate_single hapi rfl hworkers hclass rfl
  exact ⟨_, _, hrun, hsettings⟩

theorem longWorld_outputs {g : Generator RecorderState} (hs : g.settings = {}) :
    (recorder {}).allOutputs (fun _ => .ok none) g longApi = [longOutput] := by
  have hclass := output?_longClass (v := { longWorld with generator := g }) hs
  have hclasses : (recorder {}).outputs g.toSession longApi.classes = [longOutput] := by
    rw [longApi, Backend.outputs_cons, hclass]
    rfl
  rw [Backend.allOutputs, hclasses]
  rfl

theorem longOutput_unix : '\r' ∉ longOutput.text.toList := by simp [longOutput]

theorem long_name_refused : ∃ tally w',
    ((recorder {}).generate .null).run longWorld = (.ok tally, w') ∧
      (recorder {}).allOutputs (fun _ => .ok none) w'.generator longApi = [longOutput] ∧
      ".." ∉ longOutput.path.components ∧ '\r' ∉ longOutput.text.toList ∧
      (((recorder {}).generate .null).run w').1 = .error (.unnameable .tooLong) := by
  obtain ⟨tally, w', hrun, hsettings⟩ := longWorld_runs
  have houtputs := longWorld_outputs hsettings
  have hreturn := longOutput_unix
  refine ⟨tally, w', hrun, houtputs, longOutput_plain, hreturn, ?_⟩
  have hfinish := Recorder.finishesBy {}
  have hapi : longWorld.generator.api = some longApi := rfl
  have htree : longWorld.disk.IsTree := Disk.blank_isTree _
  have hplain : ∀ o ∈ [longOutput], ".." ∉ o.path.components :=
    List.forall_mem_singleton.2 longOutput_plain
  have hreturns : ∀ o ∈ [longOutput], '\r' ∉ o.text.toList := List.forall_mem_singleton.2 hreturn
  have hapart : [longOutput].Pairwise (Output.Apart longWorld.disk) := List.pairwise_singleton _ _
  rw [← houtputs] at hplain hreturns hapart
  obtain ⟨hended, -⟩ := Backend.ended_of_generate hfinish htree hapi hrun hplain hapart
  have hidle := hended.isIdle hfinish htree hplain hreturns hapart
  have hworkers : w'.generator.isParallel .null = .ok false := by
    rw [Session.isParallel, hsettings]
    rfl
  obtain ⟨done, hsettled, hmem⟩ := hended.settled
  have hin : longOutput ∈ done := (hmem _).2 (houtputs ▸ List.mem_singleton_self _)
  have hout := hsettled.made _ (longOutput_onWay hin)
  have hstart : w'.disk.start longOutput.path = ["home"] := Disk.start_of_home hsettled.home _
  have hlong : w'.disk.MeetsLongName longOutput.path :=
    ⟨["out"], longName, ["foo.txt"], rfl, hstart ▸ hout, fitsComponent_longName⟩
  rcases (hended.generate_again hfinish hworkers hidle).2 with ⟨-, hresult⟩ | ⟨hshort, -⟩
  · exact hresult
  · exact absurd hlong (hshort longOutput (houtputs ▸ List.mem_singleton_self _))

end Recorder

end GlueCode
