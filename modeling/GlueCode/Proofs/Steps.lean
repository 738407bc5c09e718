import GlueCode.Generator.Basic
import GlueCode.Proofs.SameDisk
/-! # Steps of a run

A step is run from a world; steps in turn stop at the first failure, or are all done with a result
each. Worlds agree when their generators and disks hold the same; the order in which classes were
produced, the order on the disk and the log may differ. A step is extensional when it takes agreeing
worlds to the same result and to worlds that agree again. -/
namespace GlueCode

variable {σ α β : Type}

structure World.Agrees (w other : World σ) : Prop where
  session : other.generator.toSession = w.generator.toSession
  produced : ∀ c, c ∈ other.generator.produced ↔ c ∈ w.generator.produced
  tally : other.generator.tally = w.generator.tally
  disk : w.disk.Same other.disk

namespace Step

theorem run_bind (x : Step σ α) (f : α → Step σ β) (w : World σ) :
    (x >>= f).run w =
      match x.run w with
      | (.ok a, v) => (f a).run v
      | (.error e, v) => (.error e, v) := by
  simp only [bind, ExceptT.bind, ExceptT.run, ExceptT.mk, StateT.bind]
  cases x w with
  | mk result v => cases result <;> rfl

theorem run_bind_ok {x : Step σ α} {f : α → Step σ β} {w w' : World σ} {b : β} :
    (x >>= f).run w = (.ok b, w') ↔ ∃ a v, x.run w = (.ok a, v) ∧ (f a).run v = (.ok b, w') := by
  rw [run_bind]
  rcases x.run w with ⟨e | a, v⟩
  · constructor
    · intro h
      cases h
    · rintro ⟨a, v, hx, -⟩
      cases hx
  · constructor
    · intro h
      exact ⟨a, v, rfl, h⟩
    · rintro ⟨a, v, hx, hf⟩
      cases hx
      exact hf

theorem ext {x y : Step σ α} (h : ∀ w, x.run w = y.run w) : x = y := funext h

theorem run_of_result {x : Step σ α} {w : World σ} {result : Except Failure α}
    (h : (x.run w).1 = result) : x.run w = (result, (x.run w).2) :=
  Prod.ext h rfl

@[simp] theorem run_pure (a : α) (w : World σ) : (pure a : Step σ α).run w = (.ok a, w) := rfl

@[simp] theorem run_get (w : World σ) : (get : Step σ (World σ)).run w = (.ok w, w) := rfl

@[simp] theorem run_modify (f : World σ → World σ) (w : World σ) :
    (modify f : Step σ PUnit).run w = (.ok ⟨⟩, f w) := rfl

@[simp] theorem run_note (r : Record) (w : World σ) :
    (note r : Step σ Unit).run w = (.ok (), { w with log := w.log ++ [r] }) := rfl

@[simp] theorem run_session (w : World σ) :
    (session : Step σ (Session σ)).run w = (.ok w.generator.toSession, w) := rfl

@[simp] theorem run_generator (w : World σ) :
    (generator : Step σ (Generator σ)).run w = (.ok w.generator, w) := rfl

@[simp] theorem run_change (f : Generator σ → Generator σ) (w : World σ) :
    (change f).run w = (.ok (), { w with generator := f w.generator }) := rfl

@[simp] theorem run_ofExcept (result : Except Failure α) (w : World σ) :
    (ofExcept result : Step σ α).run w = (result, w) := by
  cases result <;> rfl

@[simp] theorem run_attempt (work : Attempt α) (w : World σ) :
    (attempt work).run w = (work.run.value, { w with log := w.log ++ work.run.log }) := by
  rw [attempt, run_bind, run_modify]
  exact run_ofExcept _ _

def answer (written : Except Unnameable Bool) : Except Failure Bool :=
  match written with
  | .ok b => .ok b
  | .error e => .error (.unnameable e)

theorem answer_ok {written : Except Unnameable Bool} {b : Bool} (h : answer written = .ok b) :
    written = .ok b := by
  cases written with
  | error e => cases h
  | ok b => cases h; rfl

@[simp] theorem run_close (o : Output) (w : World σ) :
    (close o).run w = (answer (o.close w.disk).written,
      { w with disk := (o.close w.disk).disk, log := w.log ++ (o.close w.disk).log }) := by
  cases h : (o.close w.disk).written <;> simp [close, run_bind, h, answer] <;> rfl

theorem run_session_bind (f : Session σ → Step σ β) (w : World σ) :
    (session >>= f).run w = (f w.generator.toSession).run w := rfl

theorem run_generator_bind (f : Generator σ → Step σ β) (w : World σ) :
    (generator >>= f).run w = (f w.generator).run w := rfl

theorem run_note_bind (r : Record) (f : Unit → Step σ β) (w : World σ) :
    (note r >>= f).run w = (f ()).run { w with log := w.log ++ [r] } := rfl

theorem run_ofExcept_bind (result : Except Failure α) (f : α → Step σ β) (w : World σ) :
    (ofExcept result >>= f).run w =
      match result with
      | .ok a => (f a).run w
      | .error e => (.error e, w) := by
  rw [run_bind, run_ofExcept]
  cases result <;> rfl

theorem ofExcept_bind (result : Except Failure α) (f : α → Except Failure β) :
    (ofExcept (result >>= f) : Step σ β) = ofExcept result >>= fun a => ofExcept (f a) := by
  cases result <;> rfl

theorem run_ofExcept_bind_ok {result : Except Failure α} {f : α → Step σ β} {w w' : World σ}
    {b : β} (h : (ofExcept result >>= f).run w = (.ok b, w')) :
    ∃ a, result = .ok a ∧ (f a).run w = (.ok b, w') := by
  obtain ⟨a, v, hresult, h⟩ := run_bind_ok.1 h
  rw [run_ofExcept] at hresult
  obtain ⟨ha, rfl⟩ := Prod.mk.inj hresult
  exact ⟨a, ha, h⟩

theorem run_close_bind_ok {o : Output} {f : Bool → Step σ β} {w w' : World σ} {b : β}
    (h : (close o >>= f).run w = (.ok b, w')) :
    ∃ written, (o.close w.disk).written = .ok written ∧
      (f written).run { w with
        disk := (o.close w.disk).disk
        log := w.log ++ (o.close w.disk).log } = (.ok b, w') := by
  obtain ⟨written, v, hclose, h⟩ := run_bind_ok.1 h
  rw [run_close] at hclose
  obtain ⟨hwritten, rfl⟩ := Prod.mk.inj hclose
  exact ⟨written, answer_ok hwritten, h⟩

theorem run_outcome (x : Step σ α) (w : World σ) :
    (outcome x).run w = (.ok (x.run w).1, (x.run w).2) := rfl

theorem run_outcome_ok {x : Step σ α} {w v : World σ} {result : Except Failure α}
    (h : (outcome x).run w = (.ok result, v)) : x.run w = (result, v) := by
  obtain ⟨hresult, hv⟩ := Prod.mk.inj h
  cases hresult
  cases hv
  rfl

/-- Steps done one after the other, none of which failed. -/
inductive InTurn (f : β → Step σ α) : World σ → List β → List α → World σ → Prop where
  | nil (w : World σ) : InTurn f w [] [] w
  | cons {w v w' : World σ} {x : β} {l : List β} {a : α} {results : List α}
      (hfirst : (f x).run w = (.ok a, v)) (hrest : InTurn f v l results w') :
      InTurn f w (x :: l) (a :: results) w'

section InTurn

variable {f : β → Step σ α} {w w' : World σ} {l : List β}

theorem inTurn_of_mapM {results : List α} (h : (l.mapM f).run w = (.ok results, w')) :
    InTurn f w l results w' := by
  induction l generalizing w results with
  | nil =>
    rw [List.mapM_nil] at h
    cases h
    exact .nil _
  | cons x l ih =>
    rw [List.mapM_cons] at h
    obtain ⟨a, v, hfirst, h⟩ := run_bind_ok.1 h
    obtain ⟨rest, v', hrest, h⟩ := run_bind_ok.1 h
    cases h
    exact .cons hfirst (ih hrest)

theorem InTurn.mapM {results : List α} (h : InTurn f w l results w') :
    (l.mapM f).run w = (.ok results, w') := by
  induction h with
  | nil => rfl
  | cons hfirst hrest ih =>
    rw [List.mapM_cons, run_bind, hfirst]
    simp only [run_bind, ih, run_pure]

theorem outcomes_length {results : List (Except Failure α)}
    (h : (outcomes f l).run w = (.ok results, w')) : results.length = l.length := by
  induction l generalizing w results with
  | nil =>
    cases h
    rfl
  | cons x l ih =>
    obtain ⟨first, v, -, h⟩ := run_bind_ok.1 h
    obtain ⟨rest, v', hrest, h⟩ := run_bind_ok.1 h
    cases h
    rw [List.length_cons, List.length_cons, ih hrest]

theorem inTurn_of_outcomes {results : List α}
    (h : (outcomes f l).run w = (.ok (results.map .ok), w')) : InTurn f w l results w' := by
  induction l generalizing w results with
  | nil =>
    obtain ⟨hnil, rfl⟩ := Prod.mk.inj h
    cases results with
    | nil => exact .nil _
    | cons => simp at hnil
  | cons x l ih =>
    obtain ⟨result, v, hfirst, h⟩ := run_bind_ok.1 h
    obtain ⟨rest, v', hrest, h⟩ := run_bind_ok.1 h
    obtain ⟨hcons, rfl⟩ := Prod.mk.inj h
    cases results with
    | nil => simp at hcons
    | cons a results =>
      simp only [Except.ok.injEq, List.map_cons, List.cons.injEq] at hcons
      obtain ⟨rfl, rfl⟩ := hcons
      exact .cons (run_outcome_ok hfirst) (ih hrest)

end InTurn

def Extensional (step : Step σ α) : Prop :=
  ∀ {w other : World σ} {result : Except Failure α} {w' : World σ}, w.Agrees other →
    step.run w = (result, w') → ∃ other', step.run other = (result, other') ∧ w'.Agrees other'

theorem extensional_pure (a : α) : (pure a : Step σ α).Extensional := by
  intro w other result w' hagrees hrun
  cases hrun
  exact ⟨other, rfl, hagrees⟩

theorem extensional_note (r : Record) : (note r : Step σ Unit).Extensional := by
  intro w other result w' hagrees hrun
  cases hrun
  exact ⟨_, rfl, hagrees.session, hagrees.produced, hagrees.tally, hagrees.disk⟩

theorem extensional_ofExcept (r : Except Failure α) : (ofExcept r : Step σ α).Extensional := by
  intro w other result w' hagrees hrun
  rw [run_ofExcept] at hrun
  cases hrun
  exact ⟨other, run_ofExcept r other, hagrees⟩

theorem extensional_change {f : Generator σ → Generator σ}
    (hf : ∀ {w other : World σ}, w.Agrees other →
      World.Agrees { w with generator := f w.generator }
        { other with generator := f other.generator }) :
    (change f).Extensional := by
  intro w other result w' hagrees hrun
  cases hrun
  exact ⟨_, rfl, hf hagrees⟩

theorem extensional_close (o : Output) : (close o : Step σ Bool).Extensional := by
  intro w other result w' hagrees hrun
  have hsame := Output.close_same hagrees.disk o
  rw [run_close] at hrun
  cases hrun
  refine ⟨{ other with
    disk := (o.close other.disk).disk
    log := other.log ++ (o.close other.disk).log }, ?_, ?_⟩
  · rw [run_close, hsame.written]
  · exact ⟨hagrees.session, hagrees.produced, hagrees.tally, hsame.disk⟩

theorem extensional_bind {x : Step σ α} {f : α → Step σ β} (hx : x.Extensional)
    (hf : ∀ a, (f a).Extensional) : (x >>= f).Extensional := by
  intro w other result w' hagrees hrun
  rw [run_bind] at hrun
  rcases hfirst : x.run w with ⟨e | a, v⟩
  · rw [hfirst] at hrun
    cases hrun
    obtain ⟨other', hother, hagrees'⟩ := hx hagrees hfirst
    exact ⟨other', by rw [run_bind, hother], hagrees'⟩
  · rw [hfirst] at hrun
    obtain ⟨other', hother, hagrees'⟩ := hx hagrees hfirst
    obtain ⟨last, hlast, hagrees''⟩ := hf a hagrees' hrun
    exact ⟨last, by rw [run_bind, hother]; exact hlast, hagrees''⟩

/-- A step may look at the generator in ways that do not tell agreeing ones apart. -/
theorem extensional_generator {f : Generator σ → Step σ β} (hf : ∀ g, (f g).Extensional)
    (hsame : ∀ {w other : World σ}, w.Agrees other → f other.generator = f w.generator) :
    (generator >>= f).Extensional := by
  intro w other result w' hagrees hrun
  rw [run_bind, run_generator] at hrun
  obtain ⟨other', hother, hagrees'⟩ := hf w.generator hagrees hrun
  refine ⟨other', ?_, hagrees'⟩
  rw [← hsame hagrees] at hother
  rw [run_bind, run_generator]
  exact hother

end Step

end GlueCode
