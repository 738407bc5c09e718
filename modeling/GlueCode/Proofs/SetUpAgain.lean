import GlueCode.Proofs.Runs
/-! # A generator that is set up again

What a setup leaves of the past is told apart from what the past leaves behind. Runs and the texts of
single classes do not change the session, and what they do follows from the session, the produced
classes and the disk. So the session is what the setups made of it, and two generators that agree in
these three things cannot be told apart by anything that is asked of them from then on. -/
namespace GlueCode

variable {σ α β : Type}

/-- Worlds that differ in nothing but the tally and the log. -/
structure World.Alike (w other : World σ) : Prop where
  session : other.generator.toSession = w.generator.toSession
  produced : other.generator.produced = w.generator.produced
  disk : other.disk = w.disk

theorem World.Alike.refl (w : World σ) : w.Alike w := ⟨rfl, rfl, rfl⟩

namespace Step

/-- The step keeps the session, and it does not see the tally or the log. -/
def Confined (step : Step σ α) : Prop :=
  ∀ ⦃w other : World σ⦄ ⦃result : Except Failure α⦄ ⦃w' : World σ⦄, w.Alike other →
    step.run w = (result, w') → w'.generator.toSession = w.generator.toSession ∧
      ∃ other', step.run other = (result, other') ∧ w'.Alike other'

theorem Confined.session {step : Step σ α} (h : step.Confined) (w : World σ) :
    (step.run w).2.generator.toSession = w.generator.toSession :=
  (h (.refl w) rfl).1

theorem Confined.alike {step : Step σ α} (h : step.Confined) {w other : World σ}
    (halike : w.Alike other) : (step.run other).1 = (step.run w).1 ∧
      (step.run w).2.Alike (step.run other).2 := by
  obtain ⟨-, other', hother, halike'⟩ := h halike rfl
  rw [hother]
  exact ⟨rfl, halike'⟩

theorem confined_pure (a : α) : (pure a : Step σ α).Confined := by
  intro w other result w' halike hrun
  cases hrun
  exact ⟨rfl, other, rfl, halike⟩

theorem confined_note (r : Record) : (note r : Step σ Unit).Confined := by
  intro w other result w' halike hrun
  cases hrun
  exact ⟨rfl, _, rfl, halike.session, halike.produced, halike.disk⟩

theorem confined_session : (session : Step σ (Session σ)).Confined := by
  intro w other result w' halike hrun
  cases hrun
  exact ⟨rfl, other, by rw [run_session, halike.session], halike⟩

theorem confined_ofExcept (r : Except Failure α) : (ofExcept r : Step σ α).Confined := by
  intro w other result w' halike hrun
  rw [run_ofExcept] at hrun
  cases hrun
  exact ⟨rfl, other, run_ofExcept r other, halike⟩

theorem confined_change {f : Generator σ → Generator σ}
    (hsession : ∀ g, (f g).toSession = g.toSession)
    (hproduced : ∀ g h, h.produced = g.produced → (f h).produced = (f g).produced) :
    (change f).Confined := by
  intro w other result w' halike hrun
  cases hrun
  refine ⟨hsession _, _, rfl, ?_, hproduced _ _ halike.produced, halike.disk⟩
  exact (hsession _).trans (halike.session.trans (hsession _).symm)

theorem confined_attempt (work : Attempt α) : (attempt work : Step σ α).Confined := by
  intro w other result w' halike hrun
  rw [run_attempt] at hrun
  cases hrun
  exact ⟨rfl, _, run_attempt work other, halike.session, halike.produced, halike.disk⟩

theorem confined_close (o : Output) : (close o : Step σ Bool).Confined := by
  intro w other result w' halike hrun
  rw [run_close] at hrun
  cases hrun
  have hother := run_close o other
  rw [halike.disk] at hother
  exact ⟨rfl, _, hother, halike.session, halike.produced, rfl⟩

theorem Confined.bind {x : Step σ α} {f : α → Step σ β} (hx : x.Confined)
    (hf : ∀ a, (f a).Confined) : (x >>= f).Confined := by
  intro w other result w' halike hrun
  rw [run_bind] at hrun
  rcases hfirst : x.run w with ⟨e | a, v⟩
  · rw [hfirst] at hrun
    cases hrun
    obtain ⟨hkept, other', hother, halike'⟩ := hx halike hfirst
    exact ⟨hkept, other', by rw [run_bind, hother], halike'⟩
  · rw [hfirst] at hrun
    obtain ⟨hkept, other', hother, halike'⟩ := hx halike hfirst
    obtain ⟨hkept', last, hlast, halike''⟩ := hf a halike' hrun
    exact ⟨hkept'.trans hkept, last, by rw [run_bind, hother]; exact hlast, halike''⟩

theorem Confined.outcome {x : Step σ α} (hx : x.Confined) : (outcome x).Confined := by
  intro w other result w' halike hrun
  cases hrun
  obtain ⟨hkept, other', hother, halike'⟩ := hx halike rfl
  exact ⟨hkept, other', by rw [run_outcome, hother], halike'⟩

theorem closed_confined : Closed (@Confined σ) where
  pure := confined_pure
  bind := Confined.bind
  outcome := Confined.outcome
  note := confined_note
  session := confined_session
  ofExcept := confined_ofExcept
  attempt := confined_attempt
  close := confined_close
  produced c := confined_change (fun _ => rfl) fun _ _ h => congrArg (c :: ·) h

end Step

namespace Backend

variable {b : Backend σ} {w other : World σ}

theorem confined_call (hfinish : b.finish.Confined) (k : Call) : (b.call k).Confined := by
  have hruns : (b.tasks k >>= fun tallies => b.conclude (Tally.sum tallies)).Confined := by
    refine (Step.closed_confined.tasks k).bind fun tallies => ?_
    rw [conclude, Hooks.conclude]
    refine .bind (Step.confined_change (fun _ => rfl) fun _ _ h => h) fun _ => ?_
    exact hfinish.bind fun _ => (Step.confined_note _).bind fun _ => Step.confined_pure _
  intro w other result w' halike hrun
  rw [run_call] at hrun ⊢
  exact hruns halike hrun

def Deed.IsRequest : Deed σ → Prop
  | .arrange _ _ => False
  | _ => True

/-- What the setups among the deeds make of what the backend keeps. -/
def lastState (b : Backend σ) : List (Deed σ) → σ
  | [] => b.initial
  | .setUp _ args :: earlier => (b.setup args (b.lastState earlier)).1
  | _ :: earlier => b.lastState earlier

theorem after_session (hfinish : b.finish.Confined) (settings : Settings) (disk : Disk)
    {deeds : List (Deed σ)} (hdeeds : ∀ deed ∈ deeds, deed.IsRequest) :
    (b.after settings disk deeds).generator.settings = settings ∧
      (b.after settings disk deeds).generator.templates = b.templates ∧
      (b.after settings disk deeds).generator.state = b.lastState deeds := by
  induction deeds with
  | nil => exact ⟨rfl, rfl, rfl⟩
  | cons deed earlier ih =>
    obtain ⟨hdeed, hearlier⟩ := List.forall_mem_cons.1 hdeeds
    have ih := ih hearlier
    rw [after]
    cases deed with
    | setUp api args =>
      obtain ⟨log, hrun⟩ := run_setUp (b := b) api args (b.after settings disk earlier)
      rw [perform, hrun, lastState, ← ih.2.2]
      exact ⟨ih.1, ih.2.1, rfl⟩
    | call k =>
      rw [perform, (confined_call hfinish k).session]
      exact ih
    | produce c =>
      rw [perform, (Step.closed_confined.produce c).session]
      exact ih
    | finish =>
      rw [perform, hfinish.session]
      exact ih
    | arrange session disk => exact hdeed.elim

def setUpSession (b : Backend σ) (settings : Settings) (deeds : List (Deed σ)) (api : Api)
    (args : Ledger String String) : Session σ where
  settings
  api := some api
  foundPackage := api.package?.getD ""
  templates := b.templates
  state := (b.setup args (b.lastState deeds)).1

theorem after_setUp (hfinish : b.finish.Confined) (settings : Settings) (disk : Disk)
    {deeds : List (Deed σ)} (hdeeds : ∀ deed ∈ deeds, deed.IsRequest) (api : Api)
    (args : Ledger String String) :
    (b.after settings disk (.setUp api args :: deeds)).generator.toSession =
        b.setUpSession settings deeds api args ∧
      (b.after settings disk (.setUp api args :: deeds)).generator.produced = [] ∧
      (b.after settings disk (.setUp api args :: deeds)).disk =
        (b.after settings disk deeds).disk := by
  obtain ⟨hsettings, htemplates, hstate⟩ := after_session hfinish settings disk hdeeds
  obtain ⟨log, hrun⟩ := run_setUp (b := b) api args (b.after settings disk deeds)
  rw [after, perform, hrun]
  refine ⟨?_, rfl, rfl⟩
  simp only [setUpSession, hsettings, htemplates, hstate]

theorem perform_alike (hfinish : b.finish.Confined) {deed : Deed σ} (hdeed : deed.IsRequest)
    (halike : w.Alike other) : (b.perform w deed).Alike (b.perform other deed) := by
  cases deed with
  | setUp api args =>
    obtain ⟨log, hrun⟩ := run_setUp (b := b) api args w
    obtain ⟨log', hrun'⟩ := run_setUp (b := b) api args other
    rw [perform, perform, hrun, hrun']
    refine ⟨?_, rfl, halike.disk⟩
    simp only [halike.session]
  | call k => exact ((confined_call hfinish k).alike halike).2
  | produce c => exact ((Step.closed_confined.produce c).alike halike).2
  | finish => exact (hfinish.alike halike).2
  | arrange session disk => exact hdeed.elim

theorem after_alike (hfinish : b.finish.Confined) {settings settings' : Settings}
    {disk disk' : Disk} {deeds deeds' later : List (Deed σ)}
    (hlater : ∀ deed ∈ later, deed.IsRequest)
    (halike : (b.after settings disk deeds).Alike (b.after settings' disk' deeds')) :
    (b.after settings disk (later ++ deeds)).Alike
      (b.after settings' disk' (later ++ deeds')) := by
  induction later with
  | nil => exact halike
  | cons deed later ih =>
    obtain ⟨hdeed, hlater⟩ := List.forall_mem_cons.1 hlater
    exact perform_alike hfinish hdeed (ih hlater)

end Backend

namespace Wrapper

theorem confined_finish : wrapper.finish.Confined := by
  intro w other result w' halike hrun
  obtain ⟨hresult, hdisk, hkept⟩ := run_finish w
  obtain ⟨hresult', hdisk', hkept'⟩ := run_finish other
  have hindex : indexOutput other.generator = indexOutput w.generator :=
    indexOutput_congr halike.session fun c => by rw [halike.produced]
  have hrun : finish.run w = (result, w') := hrun
  rw [hindex, halike.disk] at hresult' hdisk'
  rw [hrun] at hresult hdisk hkept
  refine ⟨by rw [hkept], (finish.run other).2, Prod.ext (hresult'.trans hresult.symm) rfl, ?_⟩
  exact ⟨by rw [hkept', hkept, halike.session], by rw [hkept', hkept, halike.produced],
    hdisk'.trans hdisk.symm⟩

def defaultPattern : String := "{name}.h"

def givenPattern? : Backend.Deed WrapperState → Option String
  | .setUp _ args => args.get? patternOption
  | _ => none

def lastPattern (deeds : List (Backend.Deed WrapperState)) : String :=
  (deeds.findSome? givenPattern?).getD defaultPattern

theorem lastState_eq (deeds : List (Backend.Deed WrapperState)) :
    wrapper.lastState deeds = ⟨lastPattern deeds⟩ := by
  induction deeds with
  | nil => rfl
  | cons deed earlier ih =>
    rw [lastPattern, List.findSome?_cons]
    cases deed with
    | setUp api args =>
      rw [Backend.lastState, ih, givenPattern?]
      cases hgiven : args.get? patternOption with
      | none => simp [wrapper, hgiven, lastPattern]
      | some pattern => simp [wrapper, hgiven]
    | _ => exact ih

theorem setUpSession_state (settings : Settings) (deeds : List (Backend.Deed WrapperState))
    (api : Api) (args : Ledger String String) :
    (wrapper.setUpSession settings deeds api args).state =
      ⟨(args.get? patternOption).getD (lastPattern deeds)⟩ := by
  rw [Backend.setUpSession, lastState_eq]
  rfl

section SetUp

variable (settings : Settings) (disk : Disk) {deeds : List (Backend.Deed WrapperState)}
  (api : Api) (args : Ledger String String)

theorem fresh_state : (wrapper.after settings disk [.setUp api args]).generator.state =
    ⟨(args.get? patternOption).getD defaultPattern⟩ := by
  rw [(Backend.after_setUp confined_finish settings disk (List.forall_mem_nil _) api args).1,
    setUpSession_state]
  rfl

theorem after_setUp_session (hdeeds : ∀ deed ∈ deeds, deed.IsRequest) (start : Disk) :
    (wrapper.after settings disk (.setUp api args :: deeds)).generator.toSession =
      { (wrapper.after settings start [.setUp api args]).generator.toSession with
        state := ⟨(args.get? patternOption).getD (lastPattern deeds)⟩ } := by
  rw [(Backend.after_setUp confined_finish settings disk hdeeds api args).1,
    (Backend.after_setUp confined_finish settings start (List.forall_mem_nil _) api args).1,
    ← setUpSession_state settings deeds api args]
  rfl

theorem setUp_alike_iff (hdeeds : ∀ deed ∈ deeds, deed.IsRequest) :
    (wrapper.after settings disk (.setUp api args :: deeds)).Alike
        (wrapper.after settings (wrapper.after settings disk deeds).disk [.setUp api args]) ↔
      args.has patternOption = true ∨ lastPattern deeds = defaultPattern := by
  have hfresh := fresh_state settings (wrapper.after settings disk deeds).disk api args
  have hsession := after_setUp_session settings disk api args hdeeds
    (wrapper.after settings disk deeds).disk
  obtain ⟨-, hproduced, hdisk⟩ :=
    Backend.after_setUp confined_finish settings disk hdeeds api args
  obtain ⟨-, hproduced', hdisk'⟩ := Backend.after_setUp confined_finish settings
    (wrapper.after settings disk deeds).disk (List.forall_mem_nil _) api args
  trans (args.get? patternOption).getD defaultPattern =
      (args.get? patternOption).getD (lastPattern deeds)
  · constructor
    · intro halike
      have hstate := congrArg (fun s => s.state.headerPattern) halike.session
      rwa [hsession, hfresh] at hstate
    · intro hpattern
      refine ⟨?_, hproduced'.trans hproduced.symm, hdisk'.trans hdisk.symm⟩
      rw [hsession, ← hpattern, ← hfresh]
  · rw [Ledger.has]
    cases args.get? patternOption with
    | none => simp [eq_comm]
    | some pattern => simp

end SetUp

/-- A generator that was asked for anything and is then set up agrees with a new one after the same
setup in all but the pattern for the header's name, which stays the last one given where the setup
gives none. So the two are alike just when the setup gives a pattern or no other than the default one
is in force; and then nothing that is asked of both from then on can tell them apart. -/
theorem set_up_again (settings : Settings) (disk : Disk) (deeds : List (Backend.Deed WrapperState))
    (hdeeds : ∀ deed ∈ deeds, deed.IsRequest) (api : Api) (args : Ledger String String) :
    let again := wrapper.after settings disk (.setUp api args :: deeds)
    let fresh := wrapper.after settings (wrapper.after settings disk deeds).disk [.setUp api args]
    again.generator.toSession = { fresh.generator.toSession with
        state := ⟨(args.get? patternOption).getD (lastPattern deeds)⟩ } ∧
      fresh.generator.state = ⟨(args.get? patternOption).getD defaultPattern⟩ ∧
      again.generator.packageText = fresh.generator.packageText ∧
      again.generator.moduleName = fresh.generator.moduleName ∧
      scopeName again.generator.toSession = scopeName fresh.generator.toSession ∧
      again.generator.produced = [] ∧ fresh.generator.produced = [] ∧
      (again.Alike fresh ↔
        args.has patternOption = true ∨ lastPattern deeds = defaultPattern) ∧
      (again.Alike fresh → ∀ later : List (Backend.Deed WrapperState),
        (∀ deed ∈ later, deed.IsRequest) →
          let again' := wrapper.after settings disk (later ++ .setUp api args :: deeds)
          let fresh' := wrapper.after settings (wrapper.after settings disk deeds).disk
            (later ++ [.setUp api args])
          again'.Alike fresh' ∧
            (∀ k, ((wrapper.call k).run fresh').1 = ((wrapper.call k).run again').1) ∧
            ∀ c, ((wrapper.produce c).run fresh').1 = ((wrapper.produce c).run again').1) := by
  intro again fresh
  have hsession : again.generator.toSession = { fresh.generator.toSession with
      state := ⟨(args.get? patternOption).getD (lastPattern deeds)⟩ } :=
    after_setUp_session settings disk api args hdeeds _
  have hproduced := (Backend.after_setUp confined_finish settings disk hdeeds api args).2.1
  have hproduced' := (Backend.after_setUp confined_finish settings
    (wrapper.after settings disk deeds).disk (List.forall_mem_nil _) api args).2.1
  have hpackage : again.generator.packageText = fresh.generator.packageText := by
    rw [hsession]
    rfl
  have hmodule : again.generator.moduleName = fresh.generator.moduleName := by
    rw [Session.moduleName, Session.moduleName, hpackage]
  have hscope : scopeName again.generator.toSession = scopeName fresh.generator.toSession := by
    rw [scopeName, scopeName, hpackage]
  refine ⟨hsession, fresh_state settings _ api args, hpackage, hmodule, hscope, hproduced,
    hproduced', setUp_alike_iff settings disk api args hdeeds, ?_⟩
  intro halike later hlater again' fresh'
  have halike' : again'.Alike fresh' := Backend.after_alike confined_finish hlater halike
  exact ⟨halike', fun k => ((Backend.confined_call confined_finish k).alike halike').1,
    fun c => ((Step.closed_confined.produce c).alike halike').1⟩

def hppDeeds : List (Backend.Deed WrapperState) :=
  [.produce default, .call (.workers .null),
    .setUp (pairApi "Foo" "Bar") [(patternOption, "{name}.hpp")]]

theorem hpp_requests : ∀ deed ∈ hppDeeds, deed.IsRequest := by
  simp [hppDeeds, Backend.Deed.IsRequest]

theorem hpp_set_up_again : (∀ deed ∈ hppDeeds, deed.IsRequest) ∧
    let again := wrapper.after {} (.blank ["home"])
      (.setUp (pairApi "Foo" "Bar") [(patternOption, "{name}.h")] :: hppDeeds)
    let fresh := wrapper.after {} (wrapper.after {} (.blank ["home"]) hppDeeds).disk
      [.setUp (pairApi "Foo" "Bar") [(patternOption, "{name}.h")]]
    again.Alike fresh ∧
      ((wrapper.call (.workers .null)).run fresh).1 =
        ((wrapper.call (.workers .null)).run again).1 := by
  obtain ⟨-, -, -, -, -, -, -, hiff, hlater⟩ := set_up_again {} (.blank ["home"]) hppDeeds
    hpp_requests (pairApi "Foo" "Bar") [(patternOption, "{name}.h")]
  have halike := hiff.2 (.inl rfl)
  obtain ⟨-, hcall, -⟩ := hlater halike [] (by simp)
  exact ⟨hpp_requests, halike, hcall (.workers .null)⟩

/-- A setup without a pattern keeps the one that was given before. -/
theorem hpp_kept : ¬∀ (settings : Settings) (disk : Disk) (deeds : List (Backend.Deed WrapperState)),
    (∀ deed ∈ deeds, deed.IsRequest) → ∀ (api : Api) (args : Ledger String String),
      (wrapper.after settings disk (.setUp api args :: deeds)).generator.toSession =
        (wrapper.after settings (wrapper.after settings disk deeds).disk
          [.setUp api args]).generator.toSession := by
  intro h
  have hsession := h {} (.blank ["home"])
    [.setUp (pairApi "Foo" "Bar") [(patternOption, "{name}.hpp")]]
    (by simp [Backend.Deed.IsRequest]) (pairApi "Foo" "Bar") []
  have hpattern : "{name}.hpp" = "{name}.h" := congrArg (fun s => s.state.headerPattern) hsession
  revert hpattern
  decide

end Wrapper

end GlueCode
