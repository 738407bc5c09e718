import GlueCode.Proofs.TaskOrder
import GlueCode.Recorder
import GlueCode.Wrapper.Basic
import Mathlib.Data.List.Perm.Subperm
/-! # Any order of tasks

Hooks are unordered for the classes of a run when, for any two of its tasks, asking about their
classes in either order gives the same answers and leaves generators that are alike: neither later
hooks nor finishing tell them apart. The files play no part in the answers. The hooks of a backend
answer from the class and the session and only add to the classes that were produced, so they are
unordered whenever finishing looks at nothing else. On a tree, when the outputs are apart and no task
fails, unordered hooks end in every order of the tasks as the run in the order of the classes does.

Two neighbours are exchanged first, an order is then reached by exchanges; the files follow from the
answers, since outputs that are apart are settled in any order. -/
namespace GlueCode

variable {σ : Type}

namespace Hooks

/-- Asked about a class, the hooks give this answer and leave this generator, whatever the files hold
and whatever was reported. -/
def Answers (h : Hooks σ) (c : ClassDecl) (g : Generator σ) (answer : Option Output)
    (g' : Generator σ) : Prop :=
  ∀ disk log, ∃ log', (h.output? c).run ⟨g, disk, log⟩ = (.ok answer, ⟨g', disk, log'⟩)

/-- What the hooks give out for the classes in turn, with nothing written in between. -/
def outputs (h : Hooks σ) (w : World σ) (classes : List ClassDecl) : List Output :=
  (((classes.mapM h.output?).run w).1.toOption.getD []).reduceOption

structure Unordered (h : Hooks σ) (classes : List ClassDecl)
    (Alike : Generator σ → Generator σ → Prop) : Prop where
  trans {g k l : Generator σ} : Alike g k → Alike k l → Alike g l
  tally {g k : Generator σ} : Alike g k → k.tally = g.tally
  counted {g k : Generator σ} (t : Tally) :
    Alike g k → Alike { g with tally := t } { k with tally := t }
  /-- The files and the log play no part in what the hooks answer. -/
  answers {w v : World σ} {c : ClassDecl} {answer : Option Output} :
    Alike w.generator w.generator → c ∈ classes → (h.output? c).run w = (.ok answer, v) →
      h.Answers c w.generator answer v.generator
  congr {g k g' : Generator σ} {c : ClassDecl} {answer : Option Output} :
    Alike g k → c ∈ classes → h.Answers c g answer g' → ∃ k', h.Answers c k answer k' ∧ Alike g' k'
  swap {g u v : Generator σ} {c d : ClassDecl} {answer other : Option Output} :
    Alike g g → [c, d].Subperm classes → h.Answers c g answer u → h.Answers d u other v →
      ∃ u' v', h.Answers d g other u' ∧ h.Answers c u' answer v' ∧ Alike v v'
  finish {w v other : World σ} :
    Alike w.generator other.generator → w.disk.Same other.disk → h.finish.run w = (.ok (), v) →
      ∃ v', h.finish.run other = (.ok (), v') ∧ Alike v.generator v'.generator ∧
        v.disk.Same v'.disk

inductive Asked (h : Hooks σ) :
    Generator σ → List (ClassDecl × Option Output) → Generator σ → Prop where
  | nil (g : Generator σ) : Asked h g [] g
  | cons {g u g' : Generator σ} {c : ClassDecl} {answer : Option Output}
      {jobs : List (ClassDecl × Option Output)} (hfirst : h.Answers c g answer u)
      (hrest : Asked h u jobs g') : Asked h g ((c, answer) :: jobs) g'

variable {h : Hooks σ} {g g' k : Generator σ} {w w' : World σ} {c : ClassDecl}
  {answer : Option Output} {jobs : List (ClassDecl × Option Output)} {tallies : List Tally}

theorem Answers.of_run {v : World σ} {a : Option Output} (hc : h.Answers c w.generator answer g')
    (hrun : (h.output? c).run w = (.ok a, v)) :
    a = answer ∧ v.generator = g' ∧ v.disk = w.disk := by
  obtain ⟨log, hasked⟩ := hc w.disk w.log
  rw [hasked] at hrun
  cases hrun
  exact ⟨rfl, rfl, rfl⟩

theorem Answers.unique {a : Option Output} (hc : h.Answers c g answer g')
    (hc' : h.Answers c g a k) : a = answer ∧ k = g' := by
  obtain ⟨log, hrun⟩ := hc' (.blank []) []
  obtain ⟨ha, hk, -⟩ := hc.of_run (w := ⟨g, .blank [], []⟩) hrun
  exact ⟨ha, hk⟩

theorem output?_open {w v : World σ} {o : Output}
    (hrun : (h.output? c).run w = (.ok (some o), v)) : o.finished = false := by
  obtain ⟨wanted, w₁, -, hrun⟩ := Step.run_bind_ok.1 hrun
  cases wanted with
  | false => cases hrun
  | true =>
    rw [if_neg (by simp)] at hrun
    obtain ⟨fileName, w₂, -, hrun⟩ := Step.run_bind_ok.1 hrun
    cases fileName with
    | none => cases hrun
    | some fileName =>
      dsimp only at hrun
      rw [Step.run_note_bind, Step.run_session_bind] at hrun
      obtain ⟨directory, -, hrun⟩ := Step.run_ofExcept_bind_ok hrun
      obtain ⟨inner, w₃, -, hrun⟩ := Step.run_bind_ok.1 hrun
      obtain ⟨text, w₄, -, hrun⟩ := Step.run_bind_ok.1 hrun
      cases hrun
      rfl

theorem Answers.isOpen {o : Output} (hc : h.Answers c g (some o) g') : o.finished = false := by
  obtain ⟨log, hrun⟩ := hc (.blank []) []
  exact output?_open hrun

namespace Asked

theorem isOpen (hasked : h.Asked g jobs g') :
    ∀ o ∈ (jobs.map Prod.snd).reduceOption, o.finished = false := by
  induction hasked with
  | nil => simp
  | @cons g u g' c answer jobs hfirst _ ih =>
    intro o ho
    rw [List.reduceOption_mem_iff, List.map_cons, List.mem_cons] at ho
    rcases ho with rfl | ho
    · exact hfirst.isOpen
    · exact ih o (List.reduceOption_mem_iff.2 ho)

theorem run_mapM (hasked : h.Asked g jobs g') (disk : Disk) (log : Log) :
    ∃ log', ((jobs.map Prod.fst).mapM h.output?).run ⟨g, disk, log⟩ =
      (.ok (jobs.map Prod.snd), ⟨g', disk, log'⟩) := by
  induction hasked generalizing log with
  | nil => exact ⟨log, rfl⟩
  | cons hfirst _ ih =>
    obtain ⟨log₁, hrun⟩ := hfirst disk log
    obtain ⟨log', hrest⟩ := ih log₁
    refine ⟨log', ?_⟩
    rw [List.map_cons, List.mapM_cons, Step.run_bind, hrun]
    simp only [Step.run_bind, hrest]
    rfl

theorem closedInTurn (hasked : h.Asked w.generator jobs g')
    (htasks : Step.InTurn h.classFile w (jobs.map Prod.fst) tallies w') :
    w'.generator = g' ∧ Output.ClosedInTurn w.disk (jobs.map Prod.snd) tallies w'.disk := by
  induction jobs generalizing w tallies with
  | nil =>
    cases hasked
    cases htasks
    exact ⟨rfl, .nil _⟩
  | cons job jobs ih =>
    obtain ⟨c, answer⟩ := job
    cases hasked with
    | cons hfirst hrest =>
      cases htasks with
      | cons htask hlater =>
        obtain ⟨a, v, hrun, hclose⟩ := Step.run_bind_ok.1 htask
        obtain ⟨rfl, rfl, hdisk⟩ := hfirst.of_run hrun
        cases a with
        | none =>
          cases hclose
          obtain ⟨hg, hclosed⟩ := ih hrest hlater
          exact ⟨hg, .skipped (hdisk ▸ hclosed)⟩
        | some o =>
          obtain ⟨written, hwritten, hclose⟩ := Step.run_close_bind_ok hclose
          cases hclose
          obtain ⟨hg, hclosed⟩ := ih (w := ⟨v.generator, (o.close v.disk).disk, _⟩) hrest hlater
          rw [hdisk] at hwritten hclosed
          exact ⟨hg, .closed hwritten hclosed⟩

theorem settles (hasked : h.Asked w.generator jobs g') (htree : w.disk.IsTree)
    (hplain : ∀ o ∈ (jobs.map Prod.snd).reduceOption, ".." ∉ o.path.components)
    (hapart : (jobs.map Prod.snd).reduceOption.Pairwise (Output.Apart w.disk))
    (htasks : Step.InTurn h.classFile w (jobs.map Prod.fst) tallies w') :
    w'.generator = g' ∧ List.Forall₂ (Output.Counts w.disk) (jobs.map Prod.snd) tallies ∧
      ∃ all, Output.AllSettled w.disk all w'.disk ∧
        ∀ o, o ∈ all ↔ o ∈ (jobs.map Prod.snd).reduceOption := by
  obtain ⟨hg, hclosed⟩ := hasked.closedInTurn htasks
  exact ⟨hg, hclosed.settles htree hasked.isOpen hplain hapart⟩

end Asked

theorem zipIdx_map_answers (jobs : List (ClassDecl × Option Output)) :
    ((jobs.map Prod.fst).zipIdx.map fun task =>
      (task.1, (jobs.map Prod.snd).getD task.2 none)) = jobs := by
  refine List.ext_getElem (by simp) fun i hi hi' => ?_
  simp [hi']

namespace Unordered

variable {classes : List ClassDecl} {Alike : Generator σ → Generator σ → Prop}
  (hooks : h.Unordered classes Alike)

include hooks

theorem alike_answers (hg : Alike g g) (hc : c ∈ classes) (h₁ : h.Answers c g answer g') :
    Alike g' g' := by
  obtain ⟨k, h₂, hk⟩ := hooks.congr hg hc h₁
  obtain ⟨-, rfl⟩ := h₁.unique h₂
  exact hk

theorem asked_of_inTurn {order : List ClassDecl} (hg : Alike w.generator w.generator)
    (horder : ∀ c ∈ order, c ∈ classes) (htasks : Step.InTurn h.classFile w order tallies w') :
    ∃ jobs, jobs.map Prod.fst = order ∧ h.Asked w.generator jobs w'.generator := by
  induction htasks with
  | nil => exact ⟨[], rfl, .nil _⟩
  | @cons w v w' c order t tallies htask _ ih =>
    obtain ⟨hc, horder⟩ := List.forall_mem_cons.1 horder
    obtain ⟨answer, u, hrun, hclose⟩ := Step.run_bind_ok.1 htask
    have hfirst := hooks.answers hg hc hrun
    have hu := hooks.alike_answers hg hc hfirst
    have hsame : v.generator = u.generator := by
      cases answer with
      | none =>
        cases hclose
        rfl
      | some o =>
        obtain ⟨written, -, hclose⟩ := Step.run_close_bind_ok hclose
        cases hclose
        rfl
    rw [hsame] at ih
    obtain ⟨jobs, rfl, hrest⟩ := ih hu horder
    exact ⟨(c, answer) :: jobs, rfl, .cons hfirst hrest⟩

theorem asked_congr (hk : Alike g k) (hjobs : ∀ job ∈ jobs, job.1 ∈ classes)
    (hasked : h.Asked g jobs g') : ∃ k', h.Asked k jobs k' ∧ Alike g' k' := by
  induction hasked generalizing k with
  | nil => exact ⟨k, .nil k, hk⟩
  | cons hfirst _ ih =>
    obtain ⟨hc, hjobs⟩ := List.forall_mem_cons.1 hjobs
    obtain ⟨u, hfirst', hu⟩ := hooks.congr hk hc hfirst
    obtain ⟨k', hrest', hk'⟩ := ih hu hjobs
    exact ⟨k', .cons hfirst' hrest', hk'⟩

/-- In another order the classes get the same answers. -/
theorem asked_perm {order : List (ClassDecl × Option Output)} (hperm : jobs.Perm order)
    (hg : Alike g g) (hjobs : (jobs.map Prod.fst).Subperm classes) (hasked : h.Asked g jobs g') :
    ∃ k, h.Asked g order k ∧ Alike g' k := by
  induction hperm generalizing g g' with
  | nil =>
    cases hasked
    exact ⟨g, .nil g, hg⟩
  | cons job _ ih =>
    cases hasked with
    | cons hfirst hrest =>
      have hu := hooks.alike_answers hg (hjobs.subset (by simp)) hfirst
      obtain ⟨k, hrest', hk⟩ := ih hu ((List.sublist_cons_self ..).subperm.trans hjobs) hrest
      exact ⟨k, .cons hfirst hrest', hk⟩
  | swap second first jobs =>
    obtain ⟨c, answer⟩ := first
    obtain ⟨d, other⟩ := second
    have hpair : [c, d].Subperm classes :=
      (((List.nil_sublist _).cons_cons d).cons_cons c).subperm.trans hjobs
    cases hasked with
    | cons hfirst hrest =>
      cases hrest with
      | cons hsecond hrest =>
        obtain ⟨u, v, hsecond', hfirst', hv⟩ := hooks.swap hg hpair hfirst hsecond
        obtain ⟨k, hrest', hk⟩ := hooks.asked_congr hv (fun job hjob => hjobs.subset (by
          simp only [List.map_cons, List.mem_cons]
          exact .inr (.inr (List.mem_map_of_mem hjob)))) hrest
        exact ⟨k, .cons hsecond' (.cons hfirst' hrest'), hk⟩
  | trans hperm _ ih ih' =>
    obtain ⟨k, hasked', hk⟩ := ih hg hjobs hasked
    obtain ⟨l, hasked'', hl⟩ := ih' hg ((hperm.map Prod.fst).symm.subperm.trans hjobs) hasked'
    exact ⟨l, hasked'', hooks.trans hk hl⟩

/-- Each class keeps its answer when the tasks are done in another order. -/
theorem asked_in {order : List (ClassDecl × Nat)} (hg : Alike g g)
    (hjobs : (jobs.map Prod.fst).Subperm classes)
    (horder : order.Perm (jobs.map Prod.fst).zipIdx) (hasked : h.Asked g jobs g') :
    ∃ placed k, h.Asked g placed k ∧ Alike g' k ∧ placed.Perm jobs ∧
      placed.map Prod.fst = order.map Prod.fst ∧
      placed.map Prod.snd =
        (order.map Prod.snd).map fun i => (jobs.map Prod.snd).getD i none := by
  set placed := order.map fun task => (task.1, (jobs.map Prod.snd).getD task.2 none) with hplaced
  have hperm : placed.Perm jobs := by
    have hmapped := horder.map fun task => (task.1, (jobs.map Prod.snd).getD task.2 none)
    rwa [zipIdx_map_answers] at hmapped
  obtain ⟨k, hasked', hk⟩ := hooks.asked_perm hperm.symm hg hjobs hasked
  exact ⟨placed, k, hasked', hk, hperm, by simp [hplaced], by simp [hplaced]⟩

theorem conclude_alike {v : World σ} {tally t : Tally} (hv : Alike w.generator v.generator)
    (hdisk : w.disk.Same v.disk) (hrun : (h.conclude t).run w = (.ok tally, w')) :
    ∃ v', (h.conclude t).run v = (.ok tally, v') ∧ Alike w'.generator v'.generator ∧
      w'.disk.Same v'.disk := by
  obtain ⟨rfl, u, hfinish, hgenerator, hleft, -⟩ := conclude_ok hrun
  have hcounted : Alike (w.counted tally).generator (v.counted tally).generator :=
    hooks.counted tally hv
  obtain ⟨u', hfinish', hu, hsame⟩ := hooks.finish hcounted hdisk hfinish
  rw [← hgenerator] at hu
  rw [← hleft] at hsame
  rw [run_conclude, hfinish']
  exact ⟨_, rfl, hu, hsame⟩

end Unordered

theorem inPlace_tallies {d : Disk} {answers : List (Option Output)} {tallies given : List Tally}
    {positions : List Nat} (hpositions : positions.Perm (List.range answers.length))
    (htallies : List.Forall₂ (Output.Counts d) answers tallies)
    (hgiven : List.Forall₂ (Output.Counts d) (positions.map fun i => answers.getD i none) given) :
    inPlace positions (given.map .ok : List (Except Failure Tally)) = tallies.map .ok := by
  have hlength := htallies.length_eq
  refine inPlace_eq (P := fun i r => ∃ t, Output.Counts d (answers.getD i none) t ∧ r = .ok t)
    (by rwa [List.length_map, ← hlength]) ?_ ?_
  · rw [List.forall₂_map_left_iff] at hgiven
    rw [List.forall₂_map_right_iff]
    exact hgiven.imp fun i t ht => ⟨t, ht, rfl⟩
  · rintro i r ⟨t, ht, rfl⟩ hi
    rw [List.length_map] at hi
    have hanswer : i < answers.length := hlength ▸ hi
    simp only [List.getD_eq_getElem?_getD, List.getElem?_eq_getElem hanswer,
      Option.getD_some] at ht
    rw [List.getElem_map]
    exact congrArg Except.ok ((htallies.get hanswer hi).unique ht)

theorem Unordered.classFilesIn_alike {classes : List ClassDecl}
    {Alike : Generator σ → Generator σ → Prop} (hooks : h.Unordered classes Alike)
    {order : List (ClassDecl × Nat)} {v : World σ} {given : List Tally}
    (hw : Alike w.generator w.generator) (htree : w.disk.IsTree)
    (hplain : ∀ o ∈ h.outputs w classes, ".." ∉ o.path.components)
    (hapart : (h.outputs w classes).Pairwise (Output.Apart w.disk))
    (horder : order.Perm classes.zipIdx)
    (hturn : Step.InTurn h.classFile w classes tallies w')
    (htasks : (Step.outcomes h.classFile (order.map Prod.fst)).run w = (.ok (given.map .ok), v)) :
    (h.classFilesIn order).run w = (.ok tallies, v) ∧ Alike w'.generator v.generator ∧
      w'.disk.Same v.disk := by
  obtain ⟨jobs, rfl, hasked⟩ := hooks.asked_of_inTurn hw (fun _ hc => hc) hturn
  have houtputs : h.outputs w (jobs.map Prod.fst) = (jobs.map Prod.snd).reduceOption := by
    obtain ⟨log, hrun⟩ := hasked.run_mapM w.disk w.log
    rw [outputs, hrun]
    rfl
  rw [houtputs] at hplain hapart
  obtain ⟨placed, k, hasked', hk, hperm, hfst, hsnd⟩ := hooks.asked_in hw (.refl _) horder hasked
  have hmembers : (placed.map Prod.snd).reduceOption.Perm (jobs.map Prod.snd).reduceOption :=
    (hperm.map Prod.snd).filterMap id
  obtain ⟨-, hcounts, all, hall, hmem⟩ := hasked.settles htree hplain hapart hturn
  obtain ⟨rfl, hcounts', all', hall', hmem'⟩ := hasked'.settles htree
    (fun o ho => hplain o (hmembers.mem_iff.1 ho))
    (hmembers.symm.pairwise hapart Output.Apart.symm)
    (hfst ▸ Step.inTurn_of_outcomes htasks)
  refine ⟨?_, hk, hall.same hall' fun o => by rw [hmem, hmem', hmembers.mem_iff]⟩
  have hpositions := positions_perm horder
  rw [List.length_map, ← List.length_map (f := Prod.snd)] at hpositions
  rw [hsnd] at hcounts'
  rw [classFilesIn, Step.run_bind, htasks]
  simp only [inPlace_tallies hpositions hcounts hcounts', Step.mapM_ok, Step.run_ofExcept]

theorem Unordered.generateIn_alike {api : Api} {Alike : Generator σ → Generator σ → Prop}
    (hooks : h.Unordered api.classes Alike) {order : List (ClassDecl × Nat)} {workers : Json}
    {tally : Tally} {ended v : World σ} {given : List Tally}
    (hw : Alike w.generator w.generator) (htree : w.disk.IsTree)
    (hapi : w.generator.api = some api)
    (hplain : ∀ o ∈ h.outputs w api.classes, ".." ∉ o.path.components)
    (hapart : (h.outputs w api.classes).Pairwise (Output.Apart w.disk))
    (horder : order.Perm api.classes.zipIdx)
    (hrun : (h.generate workers).run w = (.ok tally, ended))
    (htasks : (Step.outcomes h.classFile (order.map Prod.fst)).run w = (.ok (given.map .ok), v)) :
    ∃ ended', (h.generateIn order).run w = (.ok tally, ended') ∧
      Alike ended.generator ended'.generator ∧ ended.disk.Same ended'.disk := by
  obtain ⟨tallies, u, hturn, hend⟩ := generate_ok hapi hrun
  obtain ⟨hfiles, hu, hsame⟩ :=
    hooks.classFilesIn_alike hw htree hplain hapart horder hturn htasks
  obtain ⟨ended', hended, halike, hdisk⟩ := hooks.conclude_alike hu hsame hend
  refine ⟨ended', ?_, halike, hdisk⟩
  rw [generateIn, Step.run_bind, hfiles]
  exact hended

end Hooks

/-! ## Backends -/

structure Generator.Agrees (g k : Generator σ) : Prop where
  session : k.toSession = g.toSession
  produced : ∀ c, c ∈ k.produced ↔ c ∈ g.produced
  tally : k.tally = g.tally

theorem Generator.Agrees.refl (g : Generator σ) : g.Agrees g := ⟨rfl, fun _ => Iff.rfl, rfl⟩

theorem World.Agrees.generator {w other : World σ} (h : w.Agrees other) :
    w.generator.Agrees other.generator := ⟨h.session, h.produced, h.tally⟩

theorem Recorder.finish_extensional : Recorder.finish.Extensional := by
  refine Step.extensional_change fun hagrees => ?_
  refine ⟨?_, hagrees.produced, hagrees.tally, hagrees.disk⟩
  simp only [hagrees.session]

theorem Wrapper.finish_extensional : Wrapper.finish.Extensional := by
  refine Step.extensional_generator (fun g => ?_) fun hagrees => ?_
  · refine Step.extensional_bind (Step.extensional_ofExcept _) fun api => ?_
    dsimp only
    split
    · exact Step.extensional_note _
    · refine Step.extensional_bind (Step.extensional_ofExcept _) fun found => ?_
      refine Step.extensional_bind (Step.extensional_ofExcept _) fun path => ?_
      refine Step.extensional_bind (Step.extensional_ofExcept _) fun text => ?_
      refine Step.extensional_bind (Step.extensional_close _) fun written => ?_
      split
      · exact Step.extensional_note _
      · exact Step.extensional_pure _
  · simp only [hagrees.session, indexNames_congr hagrees.produced]

namespace Backend

variable {b : Backend σ} {g g' : Generator σ} {c : ClassDecl} {answer : Option Output}

/-- The answer about a class in a session: none if it is skipped, and else its output. -/
def Answered (b : Backend σ) (s : Session σ) (c : ClassDecl) (answer : Option Output) : Prop :=
  b.Skips c ∧ answer = none ∨ ∃ o, answer = some o ∧ b.output? s c = some o

theorem answers_iff : b.hooks.Answers c g answer g' ↔
    b.Answered g.toSession c answer ∧
      g' = { g with produced := (answer.map fun _ => c).toList ++ g.produced } := by
  constructor
  · intro h
    obtain ⟨log, hrun⟩ := h (.blank []) []
    have hanswered := output?_of_run hrun
    refine ⟨hanswered, ?_⟩
    rcases hanswered with ⟨hskip, rfl⟩ | ⟨o, rfl, ho⟩
    · rw [run_output?_skips hskip] at hrun
      cases hrun
      rfl
    · obtain ⟨new, hasked⟩ := run_output?_some ho
      rw [hasked] at hrun
      cases hrun
      rfl
  · rintro ⟨⟨hskip, rfl⟩ | ⟨o, rfl, ho⟩, rfl⟩ disk log
    · exact ⟨log, run_output?_skips hskip _⟩
    · obtain ⟨new, hasked⟩ := run_output?_some ho
      exact ⟨_, hasked disk log⟩

theorem unordered (hfinish : b.finish.Extensional) (classes : List ClassDecl) :
    b.hooks.Unordered classes Generator.Agrees where
  trans h h' := ⟨h'.session.trans h.session, fun c => (h'.produced c).trans (h.produced c),
    h'.tally.trans h.tally⟩
  tally h := h.tally
  counted _ h := ⟨h.session, h.produced, rfl⟩
  answers {w v c answer} _ _ hrun := by
    have hanswered := output?_of_run hrun
    refine answers_iff.2 ⟨hanswered, ?_⟩
    obtain ⟨log, hasked⟩ := answers_iff.2 ⟨hanswered, rfl⟩ w.disk w.log
    rw [hasked] at hrun
    cases hrun
    rfl
  congr {g k g' c answer} h _ hc := by
    obtain ⟨hanswered, rfl⟩ := answers_iff.1 hc
    refine ⟨_, answers_iff.2 ⟨h.session ▸ hanswered, rfl⟩, h.session, fun x => ?_, h.tally⟩
    simp only [List.mem_append, h.produced]
  swap {g u v c d answer other} _ _ hc hd := by
    obtain ⟨hfirst, rfl⟩ := answers_iff.1 hc
    obtain ⟨hsecond, rfl⟩ := answers_iff.1 hd
    refine ⟨_, _, answers_iff.2 ⟨hsecond, rfl⟩, answers_iff.2 ⟨hfirst, rfl⟩, rfl, fun x => ?_, rfl⟩
    simp only [List.mem_append, or_left_comm]
  finish {w v other} h hdisk hrun := by
    obtain ⟨v', hrun', hagrees⟩ := hfinish ⟨h.session, h.produced, h.tally, hdisk⟩ hrun
    exact ⟨v', hrun', hagrees.generator, hagrees.disk⟩

end Backend

/-- The tasks may be done in any order when the hooks are unordered and the outputs apart, as those
of wrappers and recorders are, whatever the classes. Outputs with paths from one root are apart when
neither path goes on from the other. -/
theorem Hooks.any_order_agrees :
    (∀ classes, wrapper.hooks.Unordered classes Generator.Agrees) ∧
    (∀ o classes, (recorder o).hooks.Unordered classes Generator.Agrees) ∧
    (∀ {d : Disk} {o other : Output}, o.path.root = other.path.root →
      (Output.Apart d o other ↔ ¬o.path.components <+: other.path.components ∧
        ¬other.path.components <+: o.path.components)) ∧
    (∀ {σ : Type} {h : Hooks σ} {w : World σ} {workers : Json} {api : Api},
      w.generator.api = some api → w.generator.isParallel workers = .ok true →
      (h.generateIn api.classes.zipIdx).run w = (h.generate workers).run w) ∧
    ∀ {σ : Type} {h : Hooks σ} {Alike : Generator σ → Generator σ → Prop} {w ended v : World σ}
      {workers : Json} {api : Api} {order : List (ClassDecl × Nat)} {tally : Tally}
      {given : List Tally},
      h.Unordered api.classes Alike → Alike w.generator w.generator → w.disk.IsTree →
      w.generator.api = some api →
      (∀ o ∈ h.outputs w api.classes, ".." ∉ o.path.components) →
      (h.outputs w api.classes).Pairwise (Output.Apart w.disk) →
      order.Perm api.classes.zipIdx →
      (h.generate workers).run w = (.ok tally, ended) →
      (Step.outcomes h.classFile (order.map Prod.fst)).run w = (.ok (given.map .ok), v) →
      ∃ ended', (h.generateIn order).run w = (.ok tally, ended') ∧
        Alike ended.generator ended'.generator ∧
        ended'.generator.tally = ended.generator.tally ∧ ended.disk.Same ended'.disk := by
  refine ⟨fun _ => Backend.unordered Wrapper.finish_extensional _,
    fun _ _ => Backend.unordered Recorder.finish_extensional _, Output.apart_iff,
    generateIn_zipIdx, ?_⟩
  intro σ h Alike w ended v workers api order tally given hooks hw htree hapi hplain hapart horder
    hrun htasks
  obtain ⟨ended', hended, halike, hsame⟩ :=
    hooks.generateIn_alike hw htree hapi hplain hapart horder hrun htasks
  exact ⟨ended', hended, halike, hooks.tally halike, hsame⟩

theorem Wrapper.pair_in_reverse :
    ∃ ended, (wrapper.hooks.generateIn (pairApi "Foo" "Bar").classes.zipIdx.reverse).run
        (pairWorld "Foo" "Bar") = (.ok ⟨2, 2⟩, ended) ∧
      ((wrapper.hooks.generate .null).run (pairWorld "Foo" "Bar")).2.generator.Agrees
        ended.generator ∧
      ended.generator.tally =
        ((wrapper.hooks.generate .null).run (pairWorld "Foo" "Bar")).2.generator.tally ∧
      ((wrapper.hooks.generate .null).run (pairWorld "Foo" "Bar")).2.disk.Same ended.disk := by
  have hplain : ∀ o ∈ wrapper.hooks.outputs (pairWorld "Foo" "Bar") (pairApi "Foo" "Bar").classes,
      ".." ∉ o.path.components := by decide +kernel
  have hapart : (wrapper.hooks.outputs (pairWorld "Foo" "Bar")
      (pairApi "Foo" "Bar").classes).Pairwise
        (Output.Apart (pairWorld "Foo" "Bar").disk) := by decide +kernel
  have hrun : ((wrapper.hooks.generate .null).run (pairWorld "Foo" "Bar")).1 = .ok ⟨2, 2⟩ := by
    decide +kernel
  have htasks : ((Step.outcomes wrapper.hooks.classFile
      ((pairApi "Foo" "Bar").classes.zipIdx.reverse.map Prod.fst)).run
        (pairWorld "Foo" "Bar")).1 = .ok ([⟨1, 1⟩, ⟨1, 1⟩].map .ok) := by decide +kernel
  obtain ⟨hunordered, -, -, -, hagrees⟩ := Hooks.any_order_agrees
  exact hagrees (hunordered _) (.refl _) (Disk.blank_isTree _) rfl hplain hapart
    (List.reverse_perm _) (Step.run_of_result hrun) (Step.run_of_result htasks)

def Hooks.numbering : Hooks Nat where
  wants _ := pure true
  fileName? c := pure (some c.name)
  directory _ := pure "q"
  classText _ := do
    let number := (← Step.generator).state
    Step.change fun g => { g with state := number + 1 }
    return number.repr
  finish := pure ()

def Hooks.numberingWorld : World Nat :=
  { generator :=
      { settings := {}
        api := some (Wrapper.pairApi "Foo" "Bar")
        templates := .added []
        state := 0 }
    disk := .blank ["home"] }

/-- Two classes of one name, in directories that lead to one place from two roots. -/
def Recorder.twoRootsApi : Api :=
  { classes :=
      [{ handle := 1, name := "Foo", package := "/q"
         entry := { handle := 2, kind := .object, name := "Foo", scopedName := "a::Foo" } },
        { handle := 3, name := "Foo", package := "//q"
          entry := { handle := 4, kind := .object, name := "Foo", scopedName := "b::Foo" } }] }

def Recorder.twoRootsWorld : World RecorderState :=
  { generator := { (recorder {}).generator {} with api := some twoRootsApi }
    disk := .blank ["home"] }

theorem Disk.not_same_of_text? {d d' : Disk} (p : Path) (h : d.text? p ≠ d'.text? p) :
    ¬d.Same d' := by
  intro hsame
  apply h
  rw [Disk.text?, Disk.text?, hsame.read]

/-- Numbered texts end in other files when the tasks are done in reverse, although the outputs are
apart and nothing fails. So do outputs with two paths that lead to one place. -/
theorem Hooks.reverse_differs :
    (∃ ended ended',
      (∀ o ∈ numbering.outputs numberingWorld (Wrapper.pairApi "Foo" "Bar").classes,
        ".." ∉ o.path.components) ∧
      (numbering.outputs numberingWorld (Wrapper.pairApi "Foo" "Bar").classes).Pairwise
        (Output.Apart numberingWorld.disk) ∧
      (numbering.generate .null).run numberingWorld = (.ok ⟨2, 2⟩, ended) ∧
      (numbering.generateIn (Wrapper.pairApi "Foo" "Bar").classes.zipIdx.reverse).run
        numberingWorld = (.ok ⟨2, 2⟩, ended') ∧
      ¬ended.disk.Same ended'.disk) ∧
    ∃ ended ended',
      ((recorder {}).hooks.outputs Recorder.twoRootsWorld Recorder.twoRootsApi.classes).map
        Output.path = [⟨.slash, ["q", "foo.txt"]⟩, ⟨.twoSlashes, ["q", "foo.txt"]⟩] ∧
      ((recorder {}).hooks.generate .null).run Recorder.twoRootsWorld = (.ok ⟨2, 2⟩, ended) ∧
      ((recorder {}).hooks.generateIn Recorder.twoRootsApi.classes.zipIdx.reverse).run
        Recorder.twoRootsWorld = (.ok ⟨2, 2⟩, ended') ∧
      ¬ended.disk.Same ended'.disk := by
  refine ⟨⟨_, _, by decide +kernel, by decide +kernel, Step.run_of_result (by decide +kernel),
    Step.run_of_result (by decide +kernel), ?_⟩, ⟨_, _, by decide +kernel,
      Step.run_of_result (by decide +kernel), Step.run_of_result (by decide +kernel), ?_⟩⟩
  · exact Disk.not_same_of_text? (.ofString "out/q/Foo") (by decide +kernel)
  · exact Disk.not_same_of_text? (.ofString "/q/foo.txt") (by decide +kernel)

end GlueCode
