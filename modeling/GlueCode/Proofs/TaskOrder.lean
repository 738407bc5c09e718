import GlueCode.Proofs.Outputs
import GlueCode.Proofs.Tasks
import Mathlib.Data.List.Perm.Basic
/-! # The order of tasks

With several workers the tasks of a run may be done in any order, one at a time; their results are
put back into the order of the classes. In the order of the classes, this is the run that several
workers are asked for. -/
namespace GlueCode

variable {σ α : Type}

theorem Tally.add_left_comm (t u v : Tally) : t + (u + v) = u + (t + v) := by
  obtain ⟨tg, tw⟩ := t
  obtain ⟨ug, uw⟩ := u
  obtain ⟨vg, vw⟩ := v
  simp only [Tally.mk_add_mk, Tally.mk.injEq]
  omega

theorem Tally.sum_perm {tallies others : List Tally} (h : tallies.Perm others) :
    Tally.sum tallies = Tally.sum others := by
  induction h with
  | nil => rfl
  | cons t _ ih => rw [Tally.sum_cons, Tally.sum_cons, ih]
  | swap t u l => exact Tally.add_left_comm u t _
  | trans _ _ ih ih' => exact ih.trans ih'

/-- The results of tasks, in the order of their positions. -/
def inPlace (positions : List Nat) (results : List α) : List α :=
  (List.range positions.length).filterMap fun i => List.lookup i (positions.zip results)

theorem filterMap_getElem? (l : List α) :
    ((List.range l.length).filterMap fun i => l[i]?) = l := by
  induction l using List.reverseRecOn with
  | nil => rfl
  | append_singleton l a ih =>
    have hfront : ((List.range l.length).filterMap fun i => (l ++ [a])[i]?) = l := by
      refine (List.filterMap_congr fun i hi => ?_).trans ih
      exact List.getElem?_append_left (List.mem_range.1 hi)
    rw [List.length_append, List.length_singleton, List.range_succ, List.filterMap_append, hfront]
    simp

theorem inPlace_eq {P : Nat → α → Prop} {positions : List Nat} {results values : List α}
    (hpositions : positions.Perm (List.range values.length))
    (hresults : List.Forall₂ P positions results)
    (hvalues : ∀ i r, P i r → ∀ hi : i < values.length, values[i] = r) :
    inPlace positions results = values := by
  have hlength : positions.length = values.length := by simpa using hpositions.length_eq
  rw [inPlace, hlength]
  refine (List.filterMap_congr fun i hi => ?_).trans (filterMap_getElem? values)
  have hkey : i ∈ (positions.zip results).map Prod.fst := by
    rw [List.map_fst_zip (Nat.le_of_eq hresults.length_eq)]
    exact hpositions.mem_iff.2 hi
  obtain ⟨entry, hentry, rfl⟩ := List.mem_map.1 hkey
  obtain ⟨r, hr⟩ := Option.isSome_iff_exists.1
    (List.lookup_isSome_iff.2 ⟨entry, hentry, beq_self_eq_true _⟩)
  obtain ⟨l₁, l₂, hsplit, -⟩ := List.lookup_eq_some_iff.1 hr
  have hmem : (entry.1, r) ∈ positions.zip results := hsplit ▸ by simp
  have hlt := List.mem_range.1 hi
  rw [hr, List.getElem?_eq_getElem hlt, hvalues _ _ (List.forall₂_zip hresults hmem) hlt]

theorem filterMap_lookup_zip {positions : List Nat} {results : List α} (hnodup : positions.Nodup)
    (hlength : positions.length = results.length) :
    positions.filterMap (fun i => List.lookup i (positions.zip results)) = results := by
  induction positions generalizing results with
  | nil =>
    obtain rfl : results = [] := List.length_eq_zero_iff.1 hlength.symm
    rfl
  | cons p positions ih =>
    cases results with
    | nil => cases hlength
    | cons r results =>
      obtain ⟨hnew, hnodup⟩ := List.nodup_cons.1 hnodup
      have hothers : positions.filterMap
          (fun i => List.lookup i ((p :: positions).zip (r :: results))) = results := by
        refine (List.filterMap_congr fun i hi => ?_).trans (ih hnodup (Nat.succ.inj hlength))
        have hne : (i == p) = false := by
          rw [beq_eq_false_iff_ne]
          rintro rfl
          exact hnew hi
        rw [List.zip_cons_cons, List.lookup_cons, hne]
      have hfirst : List.lookup p ((p :: positions).zip (r :: results)) = some r := by simp
      rw [List.filterMap_cons, hfirst, hothers]

/-- Putting results in place only puts them into another order. -/
theorem inPlace_perm {positions : List Nat} {results : List α}
    (hpositions : positions.Perm (List.range positions.length))
    (hlength : positions.length = results.length) : (inPlace positions results).Perm results := by
  have hnodup : positions.Nodup := hpositions.nodup_iff.2 List.nodup_range
  have hlookup := filterMap_lookup_zip hnodup hlength
  have hperm : (inPlace positions results).Perm
      (positions.filterMap fun i => List.lookup i (positions.zip results)) :=
    hpositions.symm.filterMap _
  rwa [hlookup] at hperm

theorem positions_perm {classes : List ClassDecl} {order : List (ClassDecl × Nat)}
    (horder : order.Perm classes.zipIdx) :
    (order.map Prod.snd).Perm (List.range classes.length) := by
  have hperm := horder.map Prod.snd
  rwa [List.zipIdx_map_snd, ← List.range_eq_range'] at hperm

namespace Hooks

variable {h : Hooks σ} {w : World σ}

def classFilesIn (h : Hooks σ) (order : List (ClassDecl × Nat)) : Step σ (List Tally) := do
  let results ← Step.outcomes h.classFile (order.map Prod.fst)
  Step.ofExcept ((inPlace (order.map Prod.snd) results).mapM id)

/-- A run with several workers that do the tasks in this order. -/
def generateIn (h : Hooks σ) (order : List (ClassDecl × Nat)) : Step σ Tally := do
  h.conclude (Tally.sum (← h.classFilesIn order))

theorem generateIn_zipIdx {workers : Json} {api : Api} (hapi : w.generator.api = some api)
    (hworkers : w.generator.isParallel workers = .ok true) :
    (h.generateIn api.classes.zipIdx).run w = (h.generate workers).run w := by
  have hclasses : api.classes.zipIdx.map Prod.fst = api.classes := List.zipIdx_map_fst 0 _
  have hpositions : api.classes.zipIdx.map Prod.snd = List.range api.classes.length := by
    rw [List.zipIdx_map_snd, List.range_eq_range']
  rw [run_generate hapi hworkers, generateIn, Step.run_bind, Step.run_bind, classFiles,
    classFilesIn, hclasses, hpositions, if_pos rfl, Step.run_bind, Step.run_bind]
  rcases hresults : (Step.outcomes h.classFile api.classes).run w with ⟨e | results, v⟩
  · rfl
  · have hlength := Step.outcomes_length hresults
    have hplace : inPlace (List.range api.classes.length) results = results := by
      rw [← hlength]
      refine inPlace_eq (P := fun i r => results[i]? = some r) .rfl ?_ fun i r hr hi => ?_
      · rw [List.forall₂_iff_get]
        exact ⟨List.length_range, fun i _ hi => by simp [hi]⟩
      · rwa [List.getElem?_eq_getElem hi, Option.some.injEq] at hr
    simp only [hplace]

end Hooks

namespace Backend

def classFilesIn (b : Backend σ) : List (ClassDecl × Nat) → Step σ (List Tally) :=
  b.hooks.classFilesIn

def generateIn (b : Backend σ) : List (ClassDecl × Nat) → Step σ Tally := b.hooks.generateIn

variable {b : Backend σ} {w w' : World σ}

theorem TasksDone.closedInTurn {classes : List ClassDecl} {tallies : List Tally}
    (h : b.TasksDone w classes tallies w') :
    Output.ClosedInTurn w.disk (classes.map (b.output? w.generator.toSession)) tallies w'.disk := by
  induction h with
  | nil => exact .nil _
  | cons hfirst _ ih =>
    rw [hfirst.session.1] at ih
    rw [List.map_cons]
    cases hfirst with
    | skipped hskip =>
      rw [hskip.output?_eq_none]
      exact .skipped ih
    | closed log hsome hwritten =>
      rw [hsome]
      exact .closed hwritten ih

theorem TasksDone.settles {classes : List ClassDecl} {tallies : List Tally}
    (htree : w.disk.IsTree) (h : b.TasksDone w classes tallies w')
    (hplain : ∀ o ∈ b.outputs w.generator.toSession classes, ".." ∉ o.path.components)
    (hapart : (b.outputs w.generator.toSession classes).Pairwise (Output.Apart w.disk)) :
    ∃ done, Output.AllSettled w.disk done w'.disk ∧
      ∀ o, o ∈ done ↔ o ∈ b.outputs w.generator.toSession classes := by
  have houtputs : (classes.map (b.output? w.generator.toSession)).reduceOption =
      b.outputs w.generator.toSession classes := List.filterMap_map
  have hopen : ∀ o ∈ b.outputs w.generator.toSession classes, o.finished = false := by
    intro o ho
    obtain ⟨c, -, hc⟩ := List.mem_filterMap.1 ho
    exact output?_open hc
  rw [← houtputs] at hplain hapart hopen
  obtain ⟨-, done, hdone, hmem⟩ := h.closedInTurn.settles htree hopen hplain hapart
  exact ⟨done, hdone, fun o => by rw [hmem, houtputs]⟩

end Backend

end GlueCode
