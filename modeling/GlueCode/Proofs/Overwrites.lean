import GlueCode.Proofs.FileTexts
import GlueCode.Proofs.Tasks
import GlueCode.Wrapper.Basic
/-! # Outputs that overwrite each other

Nothing keeps the outputs of a run from going to one place: names of classes are put into lower
case, their dots become underscores, and the module index has a name of its own. What goes to a
place last stays there. Every wrapper is still there after a run just when whatever goes to its
place has its text. -/
namespace GlueCode

variable {σ : Type}

def World.Unrefused (w w' : World σ) : Prop :=
  ∃ new, w'.log = w.log ++ new ∧ ∀ r ∈ new, ¬r.IsFailure

theorem World.Unrefused.split {w v w' : World σ} (h : w.Unrefused w')
    (hfirst : ∃ new, v.log = w.log ++ new) (hrest : ∃ new, w'.log = v.log ++ new) :
    w.Unrefused v ∧ v.Unrefused w' := by
  obtain ⟨new, hnew, hfine⟩ := h
  obtain ⟨front, hfront⟩ := hfirst
  obtain ⟨back, hback⟩ := hrest
  have heq : new = front ++ back := by
    rw [hback, hfront, List.append_assoc] at hnew
    exact (List.append_cancel_left hnew).symm
  subst heq
  refine ⟨⟨front, hfront, fun r hr => ?_⟩, back, hback, fun r hr => ?_⟩
  · exact hfine r (List.mem_append_left _ hr)
  · exact hfine r (List.mem_append_right _ hr)

/-- The output that went last to the place of a path; the latest one stands first. -/
def latest? (d : Disk) (done : List Output) (p : Path) : Option Output :=
  done.find? fun o => d.target o.path = d.target p

structure ShowsLatest (d₀ : Disk) (done : List Output) (d : Disk) : Prop where
  home : d.home = d₀.home
  shows : ∀ o ∈ done, ∀ last, latest? d₀ done o.path = some last → d.Shows o.path last.text

theorem exists_latest {d : Disk} {done : List Output} {o : Output} (h : o ∈ done) :
    ∃ last, latest? d done o.path = some last := by
  refine Option.isSome_iff_exists.1 (List.find?_isSome.2 ⟨o, h, ?_⟩)
  simp

theorem ShowsLatest.cons {d₀ d d' : Disk} {done : List Output} {o : Output}
    (h : ShowsLatest d₀ done d)
    (hclose : d.Replaced (d.target o.path) d' ∧ d'.Shows o.path o.text) :
    ShowsLatest d₀ (o :: done) d' := by
  obtain ⟨hreplaced, hshows⟩ := hclose
  have htarget := Disk.target_of_home h.home
  refine ⟨hreplaced.home.trans h.home, fun x hx last hlast => ?_⟩
  by_cases hsame : d₀.target o.path = d₀.target x.path
  · obtain rfl : o = last := by simpa [latest?, hsame] using hlast
    rcases List.mem_cons.1 hx with rfl | hx
    · exact hshows
    · obtain ⟨before, hbefore⟩ := exists_latest (d := d₀) hx
      have hplace : d.target x.path = d.target o.path := by rw [htarget, htarget, hsame]
      exact hreplaced.shows_same (h.shows x hx before hbefore) hplace hshows
  · have hlast' : latest? d₀ done x.path = some last := by simpa [latest?, hsame] using hlast
    have hx' : x ∈ done := by
      refine (List.mem_cons.1 hx).resolve_left ?_
      rintro rfl
      exact hsame rfl
    refine hreplaced.shows ?_ (h.shows x hx' last hlast')
    rw [htarget, htarget]
    exact fun heq => hsame heq.symm

namespace Backend

variable {b : Backend σ} {w w' : World σ}

theorem TaskDone.shows {d₀ : Disk} {done : List Output} {c : ClassDecl} {t : Tally}
    (hdone : ShowsLatest d₀ done w.disk) (h : b.TaskDone w c t w') (hfine : w.Unrefused w') :
    ShowsLatest d₀ ((b.output? w.generator.toSession c).toList ++ done) w'.disk := by
  cases h with
  | skipped hskip =>
    rw [hskip.output?_eq_none]
    exact hdone
  | closed log hsome hwritten =>
    obtain ⟨new, hnew, hfine⟩ := hfine
    rw [List.append_assoc] at hnew
    obtain rfl := List.append_cancel_left hnew
    rw [hsome]
    exact hdone.cons (Output.close_shows (output?_open hsome) hwritten fun r hr =>
      hfine r (List.mem_append_right _ hr))

theorem TasksDone.shows {d₀ : Disk} {done : List Output} {s : Session σ}
    {classes : List ClassDecl} {tallies : List Tally} (hdone : ShowsLatest d₀ done w.disk)
    (hs : w.generator.toSession = s) (h : b.TasksDone w classes tallies w')
    (hfine : w.Unrefused w') :
    ShowsLatest d₀ ((b.outputs s classes).reverse ++ done) w'.disk := by
  induction h generalizing done with
  | nil => exact hdone
  | @cons w v w' c classes t tallies hfirst hrest ih =>
    obtain ⟨hfront, hback⟩ := hfine.split hfirst.log hrest.log
    have hnext := ih (hfirst.shows hdone hfront) (hfirst.session.1.trans hs) hback
    rw [hs] at hnext
    rw [outputs_cons, List.reverse_append, List.append_assoc]
    cases hc : b.output? s c <;> simpa [hc] using hnext

end Backend

namespace Wrapper

def index? (g : Generator σ) (api : Api) : Option Output :=
  if (indexNames g api).isEmpty then none
  else
    match g.moduleName with
    | .error _ => none
    | .ok found =>
      match indexFile g.toSession (orFallback found),
        indexText g.toSession (orFallback found) (indexNames g api) with
      | .ok path, .ok text => some { path, text }
      | _, _ => none

theorem finish_closes {v v' : World WrapperState} {api : Api} (hapi : v.generator.api = some api)
    (h : finish.run v = (.ok (), v')) :
    (index? v.generator api = none ∧ v'.disk = v.disk ∧ ∃ more, v'.log = v.log ++ more) ∨
      ∃ o written more, index? v.generator api = some o ∧ o.finished = false ∧
        (o.close v.disk).written = .ok written ∧ v'.disk = (o.close v.disk).disk ∧
        v'.log = v.log ++ (o.close v.disk).log ++ more := by
  have hrequired : v.generator.requireApi = .ok api := by simp [Session.requireApi, hapi]
  rw [finish, Step.run_generator_bind, hrequired] at h
  obtain ⟨found, hfound, h⟩ := Step.run_ofExcept_bind_ok h
  cases hfound
  by_cases hnames : (indexNames v.generator api).isEmpty = true
  · simp only [hnames, if_true] at h
    rw [Step.run_note] at h
    obtain ⟨-, rfl⟩ := Prod.mk.inj h
    exact .inl ⟨by simp only [index?, hnames, if_true], rfl, _, rfl⟩
  · rw [if_neg hnames] at h
    obtain ⟨moduleName, hmodule, h⟩ := Step.run_ofExcept_bind_ok h
    obtain ⟨path, hpath, h⟩ := Step.run_ofExcept_bind_ok h
    obtain ⟨text, htext, h⟩ := Step.run_ofExcept_bind_ok h
    obtain ⟨written, hwritten, h⟩ := Step.run_close_bind_ok h
    have hindex : index? v.generator api = some { path, text } := by
      rw [index?, if_neg hnames]
      simp only [hmodule, hpath, htext]
    refine .inr ⟨{ path, text }, written, ?_⟩
    cases written with
    | true =>
      rw [if_pos rfl, Step.run_note] at h
      obtain ⟨-, rfl⟩ := Prod.mk.inj h
      exact ⟨_, hindex, rfl, hwritten, rfl, rfl⟩
    | false =>
      cases h
      exact ⟨[], hindex, rfl, hwritten, rfl, (List.append_nil _).symm⟩

theorem index?_congr {g other : Generator σ} (hs : other.toSession = g.toSession)
    (hp : ∀ c, c ∈ other.produced ↔ c ∈ g.produced) (api : Api) :
    index? other api = index? g api := by
  rw [index?, index?, indexNames_congr hp, hs]

def afterTasks (g : Generator WrapperState) (api : Api) : Generator WrapperState :=
  { g with
    produced := (api.classes.filter fun c => (wrapper.output? g.toSession c).isSome) ++ g.produced }

/-- The outputs of a run in their order: those of the classes, then the module index. -/
def runOutputs (g : Generator WrapperState) (api : Api) : List Output :=
  wrapper.outputs g.toSession api.classes ++ (index? (afterTasks g api) api).toList

/-- The index of a run follows from which classes it produced, in whatever order. -/
theorem index?_afterTasks {w v : World WrapperState} {api : Api} {order : List ClassDecl}
    {tallies : List Tally} (hperm : order.Perm api.classes)
    (h : wrapper.TasksDone w order tallies v) :
    index? (afterTasks w.generator api) api = index? v.generator api := by
  have hs : (afterTasks w.generator api).toSession = v.generator.toSession := h.session.1.symm
  refine index?_congr hs (fun c => ?_) api
  rw [h.produced, afterTasks, hperm.mem_iff, List.mem_append, List.mem_filter,
    Option.isSome_iff_ne_none, or_comm]

theorem run_shows {w w' : World WrapperState} {api : Api} {workers : Json} {tally : Tally}
    (hapi : w.generator.api = some api)
    (hrun : (wrapper.generate workers).run w = (.ok tally, w')) (hfine : w.Unrefused w') :
    ShowsLatest w.disk (runOutputs w.generator api).reverse w'.disk := by
  obtain ⟨tallies, v, hdone, hend⟩ := Backend.generate_ok hapi hrun
  obtain ⟨-, u, hfinish, -, hdisk, last, hlast⟩ := Backend.conclude_ok hend
  have hapi' : v.generator.api = some api := by rw [hdone.session.1, hapi]
  have hsame : index? { v.generator with tally := Tally.sum tallies } api =
      index? v.generator api := index?_congr rfl (fun _ => Iff.rfl) api
  have hstart : ShowsLatest w.disk [] w.disk := ⟨rfl, by simp⟩
  rw [runOutputs, index?_afterTasks .rfl hdone, hdisk, List.reverse_append]
  rcases finish_closes
    (v := { v with generator := { v.generator with tally := Tally.sum tallies } })
    hapi' hfinish with ⟨hnone, hkept, more, hlog⟩ |
      ⟨o, written, more, hsome, hopen, hwritten, hclosed, hlog⟩
  · obtain ⟨hfirst, -⟩ := hfine.split hdone.log ⟨more ++ last, by rw [hlast, hlog]; simp⟩
    have hshows := hdone.shows hstart rfl hfirst
    rw [hsame] at hnone
    rw [hnone, hkept]
    simpa using hshows
  · obtain ⟨hfirst, new, hnew, hfine⟩ := hfine.split hdone.log
      ⟨(o.close v.disk).log ++ more ++ last, by rw [hlast, hlog]; simp⟩
    have hshows := hdone.shows hstart rfl hfirst
    have hclosing : ∀ r ∈ (o.close v.disk).log, ¬r.IsFailure := by
      intro r hr
      rw [hlast, hlog] at hnew
      simp only [List.append_assoc, List.append_cancel_left_eq] at hnew
      exact hfine r (hnew ▸ List.mem_append_left _ hr)
    rw [hsame] at hsome
    rw [hsome, hclosed]
    simpa using hshows.cons (Output.close_shows hopen hwritten hclosing)

theorem latest?_mem {d : Disk} {done : List Output} {p : Path} {last : Output}
    (h : latest? d done p = some last) : last ∈ done ∧ d.target last.path = d.target p := by
  refine ⟨List.mem_of_find?_eq_some h, ?_⟩
  simpa using List.find?_some h

/-- Every generated class keeps its wrapper just when all that goes to its place has its text. -/
theorem wrappers_kept_iff {w w' : World WrapperState} {api : Api} {workers : Json} {tally : Tally}
    (hapi : w.generator.api = some api)
    (hrun : (wrapper.generate workers).run w = (.ok tally, w')) (hfine : w.Unrefused w') :
    tally.generated = (wrapper.outputs w.generator.toSession api.classes).length ∧
      ((∀ o ∈ wrapper.outputs w.generator.toSession api.classes, w'.disk.Shows o.path o.text) ↔
        ∀ o ∈ wrapper.outputs w.generator.toSession api.classes,
          ∀ other ∈ runOutputs w.generator api,
            w.disk.target other.path = w.disk.target o.path →
              Text.SameLines other.text o.text) := by
  have hshows := (run_shows hapi hrun hfine).shows
  have hcount : tally.generated =
      (wrapper.outputs w.generator.toSession api.classes).length := by
    obtain ⟨tallies, v, hdone, hend⟩ := Backend.generate_ok hapi hrun
    rw [(Backend.conclude_ok hend).1, hdone.generated]
  refine ⟨hcount, fun hkept o ho other hother hsame => ?_, fun hsame o ho => ?_⟩
  · have hmem : o ∈ (runOutputs w.generator api).reverse := by
      rw [List.mem_reverse]
      exact List.mem_append_left _ ho
    obtain ⟨last, hlast⟩ := exists_latest (d := w.disk) hmem
    have hlastSame := (hshows o hmem last hlast).same (hkept o ho)
    have hplace : latest? w.disk (runOutputs w.generator api).reverse other.path = some last := by
      rw [latest?, hsame]
      exact hlast
    rcases List.mem_append.1 hother with hclass | hindex
    · have hlastShown := hshows other (List.mem_reverse.2 hother) last hplace
      exact ((hkept other hclass).same hlastShown).trans hlastSame
    · obtain rfl : other = last := by
        rw [Option.mem_toList] at hindex
        rw [runOutputs, Option.mem_def.1 hindex] at hplace
        simpa [latest?] using hplace
      exact hlastSame
  · have hmem : o ∈ (runOutputs w.generator api).reverse := by
      rw [List.mem_reverse]
      exact List.mem_append_left _ ho
    obtain ⟨last, hlast⟩ := exists_latest (d := w.disk) hmem
    obtain ⟨hin, hplace⟩ := latest?_mem hlast
    exact (hshows o hmem last hlast).of_same (hsame o ho last (List.mem_reverse.1 hin) hplace)

theorem pair_kept : ∃ w', (wrapper.generate .null).run (pairWorld "Foo" "Bar") =
      (.ok ⟨2, 2⟩, w') ∧
    ∀ o ∈ wrapper.outputs (pairWorld "Foo" "Bar").generator.toSession (pairApi "Foo" "Bar").classes,
      w'.disk.Shows o.path o.text := by
  have hrun : ((wrapper.generate .null).run (pairWorld "Foo" "Bar")).1 = .ok ⟨2, 2⟩ := by
    decide +kernel
  have hfine : (pairWorld "Foo" "Bar").Unrefused
      ((wrapper.generate .null).run (pairWorld "Foo" "Bar")).2 :=
    ⟨_, (List.nil_append _).symm, by decide +kernel⟩
  have happart : ∀ o ∈ wrapper.outputs (pairWorld "Foo" "Bar").generator.toSession
      (pairApi "Foo" "Bar").classes,
      ∀ other ∈ runOutputs (pairWorld "Foo" "Bar").generator (pairApi "Foo" "Bar"),
        (pairWorld "Foo" "Bar").disk.target other.path =
            (pairWorld "Foo" "Bar").disk.target o.path →
          Text.SameLines other.text o.text := by decide +kernel
  exact ⟨_, Step.run_of_result hrun,
    (wrappers_kept_iff rfl (Step.run_of_result hrun) hfine).2.2 happart⟩

/-- Two classes whose names differ in case alone are given one path; both count as written, and the
first wrapper is gone. -/
theorem pair_lost :
    ((wrapper.generate .null).run (pairWorld "Foo" "foo")).1 = .ok ⟨2, 2⟩ ∧
      (pairWorld "Foo" "foo").Unrefused
        ((wrapper.generate .null).run (pairWorld "Foo" "foo")).2 ∧
      (wrapper.outputs (pairWorld "Foo" "foo").generator.toSession
          (pairApi "Foo" "foo").classes).map Output.path =
        [Path.ofString "out/pack/foo_wrapper.cpp", Path.ofString "out/pack/foo_wrapper.cpp"] ∧
      ¬∀ o ∈ wrapper.outputs (pairWorld "Foo" "foo").generator.toSession
          (pairApi "Foo" "foo").classes,
        ((wrapper.generate .null).run (pairWorld "Foo" "foo")).2.disk.Shows o.path o.text := by
  refine ⟨?_, ⟨_, (List.nil_append _).symm, ?_⟩, ?_, ?_⟩
  · decide +kernel
  · decide +kernel
  · decide +kernel
  · decide +kernel

end Wrapper

end GlueCode
