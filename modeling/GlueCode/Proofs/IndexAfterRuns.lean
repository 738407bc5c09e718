import GlueCode.Proofs.Initializers
import GlueCode.Proofs.Runs
/-! # The module index after many runs

The index lists the classes that were produced since the setup, in the order of the interface, and
the tally adds up what the tasks of one run have counted. As long as no run fails, both come to the
classes that ask for code and have a function, however often the generator was run. -/
namespace GlueCode

/-- The output is open, and its path has no part that a disk refuses. -/
def Output.IsModest (o : Output) : Prop :=
  o.finished = false ∧ o.path.isNameable = true ∧ o.path.fits = true ∧
    ".." ∉ o.path.components ∧ ∀ c ∈ o.path.components, Path.fitsComponent c = true

instance (o : Output) : Decidable o.IsModest := inferInstanceAs (Decidable (_ ∧ _))

theorem Disk.closeAll?_of_modest {d : Disk} {outputs : List Output} (htree : d.IsTree)
    (h : ∀ o ∈ outputs, o.IsModest) : ∃ d', d.closeAll? outputs = some d' ∧ d'.IsTree := by
  induction outputs generalizing d with
  | nil => exact ⟨d, rfl, htree⟩
  | cons o outputs ih =>
    obtain ⟨hopen, hname, hfits, hplain, hshort⟩ := h o List.mem_cons_self
    have haccepted : o.Accepted d := .nameable hname hfits
    rcases haccepted.close htree hplain hopen with ⟨hlong, -⟩ | ⟨-, b, hb⟩
    · exact absurd hlong (not_meetsLongName hshort)
    · have hsettled := (Output.close_settles htree hplain hopen hb).2
      rw [closeAll?, hb]
      exact ih hsettled.tree fun x hx => h x (List.mem_cons_of_mem o hx)

namespace Wrapper

def listed (api : Api) : List ClassDecl :=
  api.classes.filter fun c => c.entry.wanted.target && !c.functions.isEmpty

theorem eligible_iff {c : ClassDecl} :
    wrapper.Eligible c ↔ (c.entry.wanted.target && !c.functions.isEmpty) = true := by
  have hfile : (wrapper.fileName? c).isSome = !c.functions.isEmpty := by
    change (fileName? c).isSome = _
    rw [fileName?]
    cases c.functions.isEmpty <;> rfl
  rw [Backend.Eligible, hfile, Bool.and_eq_true]

theorem listed_eq (api : Api) : listed api = api.classes.filter fun c => wrapper.Eligible c := by
  refine List.filter_congr fun c _ => ?_
  rw [Bool.eq_iff_iff, decide_eq_true_iff, eligible_iff]

theorem mem_listed {api : Api} {c : ClassDecl} :
    c ∈ listed api ↔ c ∈ api.classes ∧ wrapper.Eligible c := by
  rw [listed, List.mem_filter, eligible_iff]

/-- All that was produced since the setup gets a wrapper. -/
structure Steady (s : Session WrapperState) (api : Api) (w : World WrapperState) : Prop where
  session : w.generator.toSession = s
  isSetUp : s.api = some api
  produced : ∀ c ∈ w.generator.produced, c ∈ listed api

section

variable {s : Session WrapperState} {api : Api} {k : Call} {tally t : Tally}
  {w u v w' : World WrapperState} {order : List ClassDecl} {done : List Tally}

theorem steady_setUp (api : Api) (args : Ledger String String) (w : World WrapperState) :
    Steady ((wrapper.setUp api args).run w).2.generator.toSession api
      ((wrapper.setUp api args).run w).2 := by
  obtain ⟨log, hrun⟩ := Backend.run_setUp (b := wrapper) api args w
  rw [hrun]
  constructor
  · rfl
  · rfl
  · intro c hc
    cases hc

theorem conclude_closes (hapi : v.generator.api = some api)
    (h : (wrapper.conclude t).run v = (.ok tally, w')) :
    tally = t ∧ w'.generator = (v.counted t).generator ∧
      w'.disk = (index? v.generator api).elim v.disk fun o => (o.close v.disk).disk := by
  obtain ⟨rfl, x, hfinish, hgenerator, hdisk, -⟩ := Backend.conclude_ok h
  change finish.run (v.counted tally) = (.ok (), x) at hfinish
  have hkept := (run_finish (v.counted tally)).2.2
  rw [hfinish] at hkept
  have hsame : index? (v.counted tally).generator api = index? v.generator api :=
    index?_congr rfl (fun _ => Iff.rfl) api
  refine ⟨rfl, hgenerator.trans hkept, ?_⟩
  rw [hdisk, ← hsame]
  have hcounted : (v.counted tally).generator.api = some api := hapi
  rcases finish_closes hcounted hfinish with ⟨hnone, hleft, -⟩ | ⟨o, _, _, hsome, -, -, hclosed, -⟩
  · rw [hleft, hnone]
    rfl
  · rw [hclosed, hsome]
    rfl

theorem Steady.tasksDone (h : Steady s api u) (hperm : order.Perm api.classes)
    (hdone : wrapper.TasksDone u order done v) : Steady s api v where
  session := hdone.session.1.trans h.session
  isSetUp := h.isSetUp
  produced := by
    intro c hc
    rcases (hdone.produced_iff c).1 hc with hbefore | ⟨hmem, heligible⟩
    · exact h.produced c hbefore
    · exact mem_listed.2 ⟨hperm.mem_iff.1 hmem, heligible⟩

theorem Steady.call_ok (h : Steady s api u) (hfits : k.Fits api)
    (hrun : (wrapper.call k).run u = (.ok tally, w')) :
    ∃ order done tallies v, order.Perm api.classes ∧ wrapper.TasksDone u order done v ∧
      (wrapper.tasks k).run u = (.ok tallies, v) ∧ tally = Tally.sum done ∧
      (wrapper.conclude tally).run v = (.ok tally, w') := by
  have hapi : u.generator.api = some api := by rw [h.session, h.isSetUp]
  obtain ⟨tallies, v, htasks, hend⟩ := Backend.call_ok hrun
  obtain ⟨order, done, hperm, hdone, hsum⟩ := Backend.tasks_ok hapi hfits htasks
  have htally := (Backend.conclude_ok hend).1
  rw [← htally] at hend
  exact ⟨order, done, tallies, v, hperm, hdone, htasks, htally.trans hsum, hend⟩

theorem Steady.call (h : Steady s api u) (hfits : k.Fits api)
    (hrun : (wrapper.call k).run u = (.ok tally, w')) : Steady s api w' := by
  obtain ⟨order, done, tallies, v, hperm, hdone, -, -, hend⟩ := h.call_ok hfits hrun
  have hv := h.tasksDone hperm hdone
  have hapi : v.generator.api = some api := by rw [hv.session, hv.isSetUp]
  obtain ⟨-, hgenerator, -⟩ := conclude_closes hapi hend
  constructor
  · rw [hgenerator]
    exact hv.session
  · exact hv.isSetUp
  · rw [hgenerator]
    exact hv.produced

theorem Steady.runs (h : Steady s api w) (hruns : wrapper.Runs api w u) : Steady s api u := by
  induction hruns with
  | refl => exact h
  | tail _ hfits hrun ih => exact ih.call hfits hrun

theorem generated_eq_listed
    (hready : ∀ c ∈ api.classes, wrapper.Skips c ∨ ∃ o, wrapper.output? s c = some o) :
    generated s api = listed api := by
  rw [listed_eq]
  refine List.filter_congr fun c hc => ?_
  rw [Bool.eq_iff_iff, Option.isSome_iff_ne_none, Backend.output?_ne_none_iff (hready c hc),
    decide_eq_true_iff]

theorem ready_of_tasksDone (hperm : order.Perm api.classes)
    (hdone : wrapper.TasksDone u order done v) :
    ∀ c ∈ api.classes, wrapper.Skips c ∨
      ∃ o, wrapper.output? u.generator.toSession c = some o :=
  fun c hc => hdone.skips_or c (hperm.mem_iff.2 hc)

theorem Steady.tasksDone_none (h : Steady s api u) (hperm : order.Perm api.classes)
    (hdone : wrapper.TasksDone u order done v) (hnone : listed api = []) :
    index? v.generator api = none ∧ v.disk = u.disk := by
  have houtput : ∀ c ∈ order, wrapper.output? u.generator.toSession c = none := by
    intro c hc
    by_contra hne
    have hlisted : c ∈ listed api :=
      mem_listed.2 ⟨hperm.mem_iff.1 hc, (Backend.output?_ne_none_iff (hdone.skips_or c hc)).1 hne⟩
    rw [hnone] at hlisted
    cases hlisted
  constructor
  · have hproduced : ∀ c ∈ v.generator.produced, c ∈ listed api := (h.tasksDone hperm hdone).produced
    have hempty : v.generator.produced = [] := by
      rw [hnone] at hproduced
      exact List.eq_nil_iff_forall_not_mem.2 fun c hc => nomatch hproduced c hc
    simp [index?, indexNames, hempty]
  · have hclosed := hdone.closeAll?
    rw [Backend.outputs, List.filterMap_eq_nil_iff.2 houtput] at hclosed
    exact (Option.some.inj hclosed).symm

theorem content_of_output? {c : ClassDecl} {o : Output} {package : String}
    (htemplates : s.templates = wrapper.templates) (hpackage : s.package = .str package)
    (h : wrapper.output? s c = some o) :
    ∃ x, Gives s c x ∧ o.text = fileText c x ∧ x.scope = scopeOf package := by
  obtain ⟨x, hgives, htext⟩ := content_of_classText htemplates (Backend.output?_some h).2
  refine ⟨x, hgives, htext, ?_⟩
  have hscope := hgives.scope
  rw [scopeName_eq, packageText_ok_iff.2 hpackage] at hscope
  exact (Except.ok.inj hscope).symm

theorem Steady.index?_some (htemplates : s.templates = wrapper.templates) (h : Steady s api u)
    (hready : ∀ c ∈ api.classes, wrapper.Skips c ∨ ∃ o, wrapper.output? s c = some o)
    (hsome : listed api ≠ []) :
    ∃ package path, s.package = .str package ∧ indexFile s (moduleFor package) = .ok path ∧
      index? (afterTasks u.generator api) api = some ⟨path,
        indexFileText s.settings.licenseComment package (moduleFor package)
          ((listed api).map initName), false⟩ := by
  obtain rfl := h.session
  have hgenerated := generated_eq_listed hready
  have houtput : ∀ c ∈ listed api,
      (wrapper.output? u.generator.toSession c).isSome = true := by
    intro c hc
    rw [← hgenerated] at hc
    exact (List.mem_filter.1 hc).2
  have hproduced : ∀ c ∈ u.generator.produced,
      (wrapper.output? u.generator.toSession c).isSome = true :=
    fun c hc => houtput c (h.produced c hc)
  rw [← hgenerated] at hsome
  obtain ⟨package, hdefines⟩ := definesInitializers htemplates hproduced hsome
  obtain ⟨first, hfirst⟩ := List.exists_mem_of_ne_nil _ hsome
  obtain ⟨o, ho⟩ := Option.isSome_iff_exists.1 (houtput first (hgenerated ▸ hfirst))
  obtain ⟨⟨fileName, hclassPath⟩, -⟩ := Backend.output?_some ho
  obtain ⟨directory, hdirectory⟩ := classPath_ok hclassPath
  obtain ⟨path, hpath, hindex⟩ := Wrapper.index?_some htemplates hproduced
    (packageText_ok_iff.2 hdefines.named) hdirectory hsome
  rw [hgenerated] at hindex
  exact ⟨package, path, hdefines.named, hpath, hindex⟩

end

/-- After a setup and any number of runs that did not fail, one more counts the classes that get a
wrapper. If there is none it leaves the disk alone. Otherwise its last output is the module index,
which declares and calls the initializers of all these classes, in the order of the interface, in
the namespace of their wrappers. -/
theorem index_matches_runs {w v u w' : World WrapperState} {api : Api}
    {args : Ledger String String} {accepted : Bool} {k : Call} {tally : Tally}
    (htemplates : w.generator.templates = wrapper.templates)
    (hsetup : (wrapper.setUp api args).run w = (.ok accepted, v))
    (hruns : wrapper.Runs api v u) (hfits : k.Fits api)
    (hlast : (wrapper.call k).run u = (.ok tally, w')) :
    u.generator.toSession = v.generator.toSession ∧
      tally.generated = (listed api).length ∧
      (listed api = [] → w'.disk = u.disk) ∧
      (listed api ≠ [] → ∃ package path, v.generator.package = .str package ∧
        indexFile v.generator.toSession (moduleFor package) = .ok path ∧
        (∀ c ∈ listed api, ∃ o x, wrapper.output? v.generator.toSession c = some o ∧
          o.text = fileText c x ∧ x.scope = scopeOf package) ∧
        ∃ tallies z, (wrapper.tasks k).run u = (.ok tallies, z) ∧
          w'.disk = (Output.close ⟨path, indexFileText v.generator.settings.licenseComment package
            (moduleFor package) ((listed api).map initName), false⟩ z.disk).disk) := by
  have hsteady := steady_setUp api args w
  obtain ⟨log, hrun⟩ := Backend.run_setUp (b := wrapper) api args w
  have htemplates' : v.generator.templates = wrapper.templates := by
    rw [hsetup] at hrun
    obtain ⟨-, rfl⟩ := Prod.mk.inj hrun
    exact htemplates
  rw [hsetup] at hsteady
  have hu := hsteady.runs hruns
  obtain ⟨order, done, tallies, z, hperm, hdone, htasks, htally, hend⟩ := hu.call_ok hfits hlast
  have hz := hu.tasksDone hperm hdone
  have hapi : z.generator.api = some api := by rw [hz.session, hz.isSetUp]
  obtain ⟨-, -, hclosed⟩ := conclude_closes hapi hend
  refine ⟨hu.session, ?_, fun hnone => ?_, fun hsome => ?_⟩
  · rw [htally, hdone.generated_eq, (hperm.filter _).length_eq, listed_eq]
  · obtain ⟨hindex, hleft⟩ := hu.tasksDone_none hperm hdone hnone
    rw [hindex] at hclosed
    exact hclosed.trans hleft
  · have hready : ∀ c ∈ api.classes, wrapper.Skips c ∨
        ∃ o, wrapper.output? v.generator.toSession c = some o := by
      rw [← hu.session]
      exact ready_of_tasksDone hperm hdone
    obtain ⟨package, path, hpackage, hpath, hindex⟩ := hu.index?_some htemplates' hready hsome
    rw [index?_afterTasks hperm hdone] at hindex
    rw [hindex] at hclosed
    refine ⟨package, path, hpackage, hpath, fun c hc => ?_, tallies, z, htasks, hclosed⟩
    obtain ⟨hmem, heligible⟩ := mem_listed.1 hc
    obtain ⟨o, ho⟩ := (hready c hmem).resolve_left fun hskip =>
      Backend.not_eligible_iff.2 hskip heligible
    obtain ⟨x, -, htext, hscope⟩ := content_of_output? htemplates' hpackage ho
    exact ⟨o, x, ho, htext, hscope⟩

theorem Steady.exists_run {s : Session WrapperState} {u : World WrapperState} {api : Api}
    {given : Json} {package : String} {path : Path} {d : Disk}
    (htemplates : s.templates = wrapper.templates) (h : Steady s api u)
    (hworkers : s.isParallel given = .ok false)
    (hready : ∀ c ∈ api.classes, wrapper.Skips c ∨ ∃ o, wrapper.output? s c = some o)
    (hsome : listed api ≠ []) (hpackage : s.package = .str package)
    (hpath : indexFile s (moduleFor package) = .ok path)
    (hclose : u.disk.closeAll? (wrapper.outputs s api.classes ++
      [⟨path, indexFileText s.settings.licenseComment package (moduleFor package)
        ((listed api).map initName), false⟩]) = some d) :
    ∃ tally w', (wrapper.call (.workers given)).run u = (.ok tally, w') ∧ w'.disk = d := by
  obtain rfl := h.session
  obtain ⟨package', path', hpackage', hpath', hindex⟩ := h.index?_some htemplates hready hsome
  obtain rfl : package = package' := Json.str.inj (hpackage.symm.trans hpackage')
  obtain rfl : path = path' := Except.ok.inj (hpath.symm.trans hpath')
  have houtputs : u.disk.closeAll? (runOutputs u.generator api) = some d := by
    rw [runOutputs, hindex]
    exact hclose
  obtain ⟨tally, w', hrun⟩ := run_ok h.isSetUp hworkers
    (fun c hc => (hready c hc).imp_right Option.isSome_iff_exists.2)
    (Option.isSome_iff_exists.2 ⟨_, hindex⟩) (Option.isSome_iff_exists.2 ⟨d, houtputs⟩)
  refine ⟨tally, w', hrun, ?_⟩
  obtain ⟨tallies, v, hdone, hend⟩ := Backend.generate_ok h.isSetUp hrun
  have hv := h.tasksDone .rfl hdone
  have hapi : v.generator.api = some api := by rw [hv.session, hv.isSetUp]
  obtain ⟨between, hfront, hback⟩ := Disk.closeAll?_append hclose
  obtain rfl : v.disk = between := Option.some.inj (hdone.closeAll?.symm.trans hfront)
  obtain ⟨_, -, hlast⟩ := Disk.closeAll?_cons hback
  obtain ⟨-, -, hdisk⟩ := conclude_closes hapi hend
  rw [← index?_afterTasks .rfl hdone, hindex] at hdisk
  exact hdisk.trans (Option.some.inj hlast)

def bareClass : ClassDecl :=
  { handle := 2, name := "Bare", entry := { handle := 2, kind := .object, name := "Bare" } }

def packWorld : World WrapperState :=
  { generator := wrapper.generator { packageName := .str "pack" }, disk := .blank ["home"] }

def mixedSession : Session WrapperState :=
  ((wrapper.setUp (twoApi fooClass bareClass) []).run packWorld).2.generator.toSession

def mixedOutputs : List Output :=
  [⟨Path.ofString "out/pack/foo_wrapper.cpp", fileText fooClass (goContent "foo.h"), false⟩,
    ⟨indexPath, indexFileText (.str "") "pack" "pack" ["Foo"], false⟩]

theorem mixed_output : wrapper.output? mixedSession fooClass =
    some ⟨Path.ofString "out/pack/foo_wrapper.cpp", fileText fooClass (goContent "foo.h"),
      false⟩ := by
  have hgives : Gives mixedSession fooClass (goContent "foo.h") := by
    constructor <;> rfl
  exact output?_of_gives rfl rfl rfl (by decide +kernel) hgives

theorem bare_skips : wrapper.Skips bareClass := fun _ => rfl

theorem mixed_ready : ∀ c ∈ (twoApi fooClass bareClass).classes,
    wrapper.Skips c ∨ ∃ o, wrapper.output? mixedSession c = some o := by
  intro c hc
  rcases List.mem_cons.1 hc with rfl | hc
  · exact .inr ⟨_, mixed_output⟩
  · obtain rfl := List.mem_singleton.1 hc
    exact .inl bare_skips

theorem mixed_indexFile : indexFile mixedSession "pack" = .ok indexPath := rfl

theorem moduleFor_pack : moduleFor "pack" = "pack" := rfl

theorem initName_fooClass : initName fooClass = "Foo" := rfl

theorem mixed_listed : listed (twoApi fooClass bareClass) = [fooClass] := rfl

theorem mixed_run {u : World WrapperState} {given : Json}
    (hworkers : mixedSession.isParallel given = .ok false)
    (h : Steady mixedSession (twoApi fooClass bareClass) u) (htree : u.disk.IsTree) :
    ∃ tally w', (wrapper.call (.workers given)).run u = (.ok tally, w') ∧ w'.disk.IsTree := by
  have houtputs : wrapper.outputs mixedSession (twoApi fooClass bareClass).classes =
      [⟨Path.ofString "out/pack/foo_wrapper.cpp", fileText fooClass (goContent "foo.h"),
        false⟩] := by
    rw [twoApi, Backend.outputs_cons, Backend.outputs_cons, mixed_output,
      bare_skips.output?_eq_none]
    rfl
  have hmodest : ∀ o ∈ mixedOutputs, o.IsModest := by decide +kernel
  obtain ⟨d, hclose, hd⟩ := Disk.closeAll?_of_modest htree hmodest
  obtain ⟨tally, w', hrun, rfl⟩ := h.exists_run rfl hworkers mixed_ready (by simp [mixed_listed])
    rfl (moduleFor_pack ▸ mixed_indexFile) (by
      rw [houtputs, mixed_listed, moduleFor_pack, List.map_singleton, initName_fooClass]
      exact hclose)
  exact ⟨tally, w', hrun, hd⟩

theorem foo_indexed_twice : ∃ u w' z first second,
    (wrapper.call (.workers .null)).run
        ((wrapper.setUp (twoApi fooClass bareClass) []).run packWorld).2 = (.ok first, u) ∧
      (wrapper.call (.workers (.int 0))).run u = (.ok second, w') ∧ second.generated = 1 ∧
      w'.disk = (Output.close ⟨indexPath, indexFileText (.str "") "pack" "pack" ["Foo"], false⟩
        z).disk := by
  have hstart := steady_setUp (twoApi fooClass bareClass) [] packWorld
  have htree : packWorld.disk.IsTree := Disk.blank_isTree _
  have hunset : mixedSession.isParallel .null = .ok false := rfl
  have hzero : mixedSession.isParallel (.int 0) = .ok false := rfl
  obtain ⟨first, u, hfirst, htree'⟩ := mixed_run hunset hstart htree
  have hsteady := hstart.call (k := .workers .null) trivial hfirst
  obtain ⟨second, w', hsecond, -⟩ := mixed_run hzero hsteady htree'
  have hsetup : (wrapper.setUp (twoApi fooClass bareClass) []).run packWorld =
      (.ok true, ((wrapper.setUp (twoApi fooClass bareClass) []).run packWorld).2) := rfl
  obtain ⟨-, hcount, -, hindex⟩ := index_matches_runs (k := .workers (.int 0)) rfl hsetup
    (.tail (.refl _) (k := .workers .null) trivial hfirst) trivial hsecond
  obtain ⟨package, path, hpackage, hpath, -, tallies, z, -, hdisk⟩ :=
    hindex (by simp [mixed_listed])
  obtain rfl : "pack" = package := Json.str.inj hpackage
  rw [moduleFor_pack] at hpath hdisk
  obtain rfl : indexPath = path := Except.ok.inj (mixed_indexFile.symm.trans hpath)
  rw [mixed_listed] at hcount hdisk
  rw [List.map_singleton, initName_fooClass] at hdisk
  exact ⟨u, w', z.disk, first, second, hfirst, hsecond, hcount, hdisk⟩

end Wrapper

end GlueCode
