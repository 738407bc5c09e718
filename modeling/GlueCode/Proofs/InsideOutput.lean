import GlueCode.Proofs.FirstFailure
import GlueCode.Proofs.Initializers
import GlueCode.Proofs.LowerCase
/-! # Below the output directory

A run closes the files of its classes and the module index, and nothing else. Their paths are the
output directory, a step for each segment of a package, and the name of the file. Steps made from a
package never lead up. But a package that begins with a dot or a slash makes a path that starts at
the root of the disk: joined to the output directory it takes its place. -/
namespace GlueCode

namespace Path

/-- The components of the directory and then further ones, none of which leads up. -/
def Inside (p directory : Path) : Prop :=
  ∃ further, p.root = directory.root ∧ p.components = directory.components ++ further ∧
    ".." ∉ further

theorem rootOf_eq_relative {cs : List Char} : rootOf cs = .relative ↔ cs.head? ≠ some '/' := by
  rw [rootOf.eq_def]
  split
  · simp
  · split <;> simp
  · simp
  · next hslash =>
    cases cs with
    | nil => simp
    | cons c cs =>
      simp only [List.head?_cons, ne_eq, Option.some.injEq, true_iff]
      rintro rfl
      exact hslash cs rfl

theorem join_relative {p q : Path} (h : q.root = .relative) :
    p / q = ⟨p.root, p.components ++ q.components⟩ := if_pos h

theorem join_rooted {p q : Path} (h : q.root ≠ .relative) : p / q = q := if_neg h

theorem up_not_mem_ofString {text : String} (h : '.' ∉ text.toList) :
    ".." ∉ (ofString text).components := by
  intro hmem
  obtain ⟨piece, hpiece, htext⟩ := List.mem_map.1 (List.mem_filter.1 hmem).1
  have hdots : piece = ['.', '.'] := by rw [← String.toList_ofList (l := piece), htext]; rfl
  exact h (Text.mem_of_mem_splitAt hpiece (hdots ▸ List.mem_cons_self))

structure NamesFile (text : String) : Prop where
  noSlash : '/' ∉ text.toList
  isComponent : isComponent text = true
  notUp : text ≠ ".."

theorem NamesFile.ofString {text : String} (h : NamesFile text) :
    ofString text = ⟨.relative, [text]⟩ := by
  have hroot : rootOf text.toList = .relative :=
    rootOf_eq_relative.2 fun hhead => h.noSlash (List.mem_of_mem_head? hhead)
  rw [Path.ofString, hroot, Text.splitAt_of_not_mem h.noSlash, List.map_singleton,
    String.ofList_toList, List.filter_cons_of_pos h.isComponent, List.filter_nil]

theorem Inside.join {p directory : Path} {text : String} (h : p.Inside directory)
    (hfile : NamesFile text) : (p / ofString text).Inside directory := by
  obtain ⟨further, hroot, hcomponents, hup⟩ := h
  rw [hfile.ofString, join_relative rfl]
  refine ⟨further ++ [text], hroot, ?_, ?_⟩
  · rw [hcomponents, List.append_assoc]
  · rw [List.mem_append, List.mem_singleton]
    rintro (hmem | htext)
    · exact hup hmem
    · exact hfile.notUp htext.symm

theorem namesFile_append {name ending : String} (hname : '/' ∉ name.toList)
    (hending : '/' ∉ ending.toList) (hlong : 2 < ending.toList.length) :
    NamesFile (name ++ ending) := by
  have hlength : ∀ short : String, short.toList.length ≤ 2 → name ++ ending ≠ short := by
    rintro short hshort rfl
    rw [String.toList_append, List.length_append] at hshort
    omega
  constructor
  · rw [String.toList_append, List.mem_append, not_or]
    exact ⟨hname, hending⟩
  · rw [isComponent, Bool.and_eq_true, decide_eq_true_eq, decide_eq_true_eq]
    exact ⟨hlength "" (by decide), hlength "." (by decide)⟩
  · exact hlength ".." (by decide)

end Path

/-- The package makes a path of its own from the root of the disk. -/
def IsRooted (package : String) : Prop :=
  package.toList.head? = some '.' ∨ package.toList.head? = some '/'

def packageSteps (package : String) : Path := Path.ofString (Text.replaceDots '/' package)

theorem packageSteps_relative {package : String} :
    (packageSteps package).root = .relative ↔ ¬IsRooted package := by
  rw [packageSteps, Path.ofString, Path.rootOf_eq_relative, Text.replaceDots,
    String.toList_ofList, List.head?_map, IsRooted]
  cases package.toList.head? with
  | none => simp
  | some c =>
    by_cases hc : c = '.'
    · simp [hc]
    · simp [hc]

theorem up_not_mem_packageSteps (package : String) : ".." ∉ (packageSteps package).components :=
  Path.up_not_mem_ofString (Text.dot_not_mem_replaceDots (by decide) package)

structure Placed (out : Path) (package fileName : String) (path : Path) : Prop where
  below : ¬IsRooted package → path.Inside out
  dropped : IsRooted package → path = packageSteps package / Path.ofString fileName
  inside_iff : out.root = .relative → (path.Inside out ↔ ¬IsRooted package)

theorem placed {out : Path} {package fileName : String} (hfile : Path.NamesFile fileName) :
    Placed out package fileName (out / packageSteps package / Path.ofString fileName) := by
  have hdropped : IsRooted package → out / packageSteps package / Path.ofString fileName =
      packageSteps package / Path.ofString fileName := by
    intro hrooted
    rw [Path.join_rooted fun h => packageSteps_relative.1 h hrooted]
  have hbelow : ¬IsRooted package →
      (out / packageSteps package / Path.ofString fileName).Inside out := by
    intro hrooted
    rw [Path.join_relative (packageSteps_relative.2 hrooted)]
    exact Path.Inside.join ⟨_, rfl, rfl, up_not_mem_packageSteps package⟩ hfile
  refine ⟨hbelow, hdropped, fun hout => ⟨?_, hbelow⟩⟩
  rintro ⟨-, hroot, -⟩ hrooted
  rw [hdropped hrooted, hfile.ofString, Path.join_relative rfl, hout] at hroot
  dsimp only at hroot
  rw [packageSteps_relative] at hroot
  exact hroot hrooted

namespace Session

variable {σ : Type}

/-- The package whose directory a file goes into: that of the session stands in for an empty one. -/
def packageFor (s : Session σ) (package : String) : Except Failure String :=
  if package.isEmpty then s.packageText else .ok package

theorem subDirectory_eq (s : Session σ) (package : String) :
    s.subDirectory package = (s.packageFor package).map (Text.replaceDots '/') := by
  rw [subDirectory, packageFor]
  by_cases hempty : package.isEmpty = true
  · have hdirectory : Text.packageDirectory package = Text.replaceDots '/' := by
      funext fallback
      rw [Text.packageDirectory, if_pos hempty]
    rw [if_pos hempty, if_pos hempty, hdirectory]
  · rw [if_neg hempty, if_neg hempty, Text.packageDirectory, if_neg hempty]
    rfl

theorem packageFor_of_packageText {s : Session σ} {package : String}
    (h : s.packageText = .ok package) : s.packageFor package = .ok package := by
  rw [packageFor]
  split
  · exact h
  · rfl

theorem classPath_eq {s : Session σ} {c : ClassDecl} {fileName : String} {path : Path}
    (h : s.classPath c fileName = .ok path) :
    ∃ out package, s.outputDirectory = .ok out ∧ s.packageFor c.package = .ok package ∧
      path = out / packageSteps package / Path.ofString fileName := by
  rw [classPath, subDirectory_eq] at h
  cases hout : s.outputDirectory with
  | error e => rw [hout] at h; cases h
  | ok out =>
    cases hpackage : s.packageFor c.package with
    | error e => rw [hout, hpackage] at h; cases h
    | ok package =>
      rw [hout, hpackage] at h
      exact ⟨out, package, rfl, rfl, (Except.ok.inj h).symm⟩

end Session

variable {σ α β : Type}

/-- The disk changed by closing outputs, each one at a path that is allowed. -/
inductive Disk.ClosedAt (allowed : Path → Prop) (d : Disk) : Disk → Prop where
  | refl : ClosedAt allowed d d
  | close {d' : Disk} {o : Output} (h : ClosedAt allowed d d') (ho : allowed o.path) :
      ClosedAt allowed d (o.close d').disk

namespace Disk.ClosedAt

variable {allowed wider : Path → Prop} {d d' d'' : Disk}

theorem trans (h : d.ClosedAt allowed d') (h' : d'.ClosedAt allowed d'') :
    d.ClosedAt allowed d'' := by
  induction h' with
  | refl => exact h
  | close _ ho ih => exact ih.close ho

theorem mono (hwider : ∀ p, allowed p → wider p) (h : d.ClosedAt allowed d') :
    d.ClosedAt wider d' := by
  induction h with
  | refl => exact .refl
  | close _ ho ih => exact ih.close (hwider _ ho)

theorem home (h : d.ClosedAt allowed d') : d'.home = d.home := by
  induction h with
  | refl => rfl
  | close _ _ ih => rw [Output.close_home, ih]

theorem file_iff {loc : Location} {bytes : ByteArray} (h : d.ClosedAt allowed d')
    (hne : ∀ p, allowed p → loc ≠ d.target p) :
    d'.get? loc = some (.file bytes) ↔ d.get? loc = some (.file bytes) := by
  induction h with
  | refl => rfl
  | @close d' o hclosed ho ih =>
    have hother : loc ≠ d'.target o.path := by
      rw [target_of_home hclosed.home]
      exact hne o.path ho
    exact (Output.close_file_iff hother).trans ih

end Disk.ClosedAt

namespace Step

/-- In the session `s` the step leaves the session alone and closes outputs at allowed paths only,
whether or not it fails. -/
def ClosesAt (s : Session σ) (allowed : Path → Prop) (step : Step σ α) : Prop :=
  ∀ w, w.generator.toSession = s → (step.run w).2.generator.toSession = s ∧
    w.disk.ClosedAt allowed (step.run w).2.disk

variable {s : Session σ} {allowed : Path → Prop}

theorem closesAt_of_kept {step : Step σ α}
    (h : ∀ w, (step.run w).2.generator.toSession = w.generator.toSession ∧
      (step.run w).2.disk = w.disk) : step.ClosesAt s allowed := by
  intro w hw
  obtain ⟨hsession, hdisk⟩ := h w
  rw [hdisk]
  exact ⟨hsession.trans hw, .refl⟩

theorem closesAt_pure (a : α) : (pure a : Step σ α).ClosesAt s allowed :=
  closesAt_of_kept fun _ => ⟨rfl, rfl⟩

theorem closesAt_note (r : Record) : (note r : Step σ Unit).ClosesAt s allowed :=
  closesAt_of_kept fun _ => ⟨rfl, rfl⟩

theorem closesAt_ofExcept (result : Except Failure α) :
    (ofExcept result : Step σ α).ClosesAt s allowed :=
  closesAt_of_kept fun w => by rw [run_ofExcept]; exact ⟨rfl, rfl⟩

theorem closesAt_attempt (work : Attempt α) : (attempt work : Step σ α).ClosesAt s allowed :=
  closesAt_of_kept fun w => by rw [run_attempt]; exact ⟨rfl, rfl⟩

theorem closesAt_change {f : Generator σ → Generator σ}
    (hf : ∀ g, (f g).toSession = g.toSession) : (change f).ClosesAt s allowed :=
  closesAt_of_kept fun w => ⟨hf w.generator, rfl⟩

theorem closesAt_close {o : Output} (ho : allowed o.path) :
    (close o : Step σ Bool).ClosesAt s allowed := by
  intro w hw
  rw [run_close]
  exact ⟨hw, .close .refl ho⟩

theorem ClosesAt.bind {x : Step σ α} {f : α → Step σ β} (hx : x.ClosesAt s allowed)
    (hf : ∀ a, (f a).ClosesAt s allowed) : (x >>= f).ClosesAt s allowed := by
  intro w hw
  have hfirst := hx w hw
  rw [run_bind]
  cases hrun : x.run w with
  | mk result v =>
    rw [hrun] at hfirst
    cases result with
    | error e => exact hfirst
    | ok a =>
      obtain ⟨hsession, hclosed⟩ := hf a v hfirst.1
      exact ⟨hsession, hfirst.2.trans hclosed⟩

theorem ClosesAt.session_bind {f : Session σ → Step σ β} (hf : (f s).ClosesAt s allowed) :
    (session >>= f).ClosesAt s allowed := by
  intro w hw
  rw [run_session_bind, hw]
  exact hf w hw

theorem ClosesAt.ofExcept_bind {result : Except Failure α} {f : α → Step σ β}
    (hf : ∀ a, result = .ok a → (f a).ClosesAt s allowed) :
    (ofExcept result >>= f).ClosesAt s allowed := by
  intro w hw
  rw [run_ofExcept_bind]
  cases result with
  | error e => exact ⟨hw, .refl⟩
  | ok a => exact hf a rfl w hw

theorem composes_closesAt : Composes (fun step : Step σ _ => step.ClosesAt s allowed) where
  pure := closesAt_pure
  bind := ClosesAt.bind
  outcome hx w hw := hx w hw

end Step

namespace Backend

variable {b : Backend σ} {s : Session σ} {allowed : Path → Prop} {api : Api} {c : ClassDecl}

def AllowsFiles (b : Backend σ) (s : Session σ) (allowed : Path → Prop) (c : ClassDecl) : Prop :=
  ∀ fileName path, b.fileName? c = some fileName → s.classPath c fileName = .ok path → allowed path

theorem closesAt_produce (c : ClassDecl) : (b.produce c).ClosesAt s allowed := by
  refine .session_bind ((Step.closesAt_attempt _).bind fun text => ?_)
  exact (Step.closesAt_change fun _ => rfl).bind fun _ => Step.closesAt_pure text

theorem closesAt_classFile (h : b.AllowsFiles s allowed c) :
    (b.classFile c).ClosesAt s allowed := by
  rw [classFile_eq]
  split
  · exact Step.closesAt_pure _
  · cases hfile : b.fileName? c with
    | none => exact Step.closesAt_pure _
    | some fileName =>
      refine (Step.closesAt_note _).bind fun _ => .session_bind ?_
      refine .ofExcept_bind fun path hpath => (closesAt_produce c).bind fun text => ?_
      refine .bind (Step.closesAt_close (h fileName path hfile hpath)) fun written => ?_
      exact Step.closesAt_pure (Tally.one written)

theorem closesAt_tasks {k : Call} (hapi : s.api = some api) (hfits : k.Fits api)
    (h : ∀ c ∈ api.classes, b.AllowsFiles s allowed c) : (b.tasks k).ClosesAt s allowed := by
  cases k with
  | workers given =>
    refine .session_bind (.ofExcept_bind fun found hfound => ?_)
    obtain rfl : api = found := by simpa [Session.requireApi, hapi] using hfound
    refine .ofExcept_bind fun parallel _ => ?_
    have hfiles : ∀ c ∈ api.classes, (b.classFile c).ClosesAt s allowed := fun c hc =>
      closesAt_classFile (h c hc)
    cases parallel with
    | false => exact Step.composes_closesAt.mapM hfiles
    | true =>
      refine .bind (Step.composes_closesAt.outcomes hfiles) fun results => ?_
      exact Step.closesAt_ofExcept _
  | inOrder order =>
    have horder : order.Perm api.classes.zipIdx := hfits
    refine .bind (Step.composes_closesAt.outcomes fun c hc => ?_) fun results =>
      Step.closesAt_ofExcept _
    have hmem := (horder.map Prod.fst).mem_iff.1 hc
    rw [List.zipIdx_map_fst] at hmem
    exact closesAt_classFile (h c hmem)

/-- Whatever a run comes to, it closes the files of its classes and what finishing closes. -/
theorem closesAt_call {k : Call} (hapi : s.api = some api) (hfits : k.Fits api)
    (h : ∀ c ∈ api.classes, b.AllowsFiles s allowed c) (hfinish : b.finish.ClosesAt s allowed) :
    (b.call k).ClosesAt s allowed := by
  have hrun : (b.tasks k >>= fun tallies => b.conclude (Tally.sum tallies)).ClosesAt s allowed := by
    refine (closesAt_tasks hapi hfits h).bind fun tallies => ?_
    refine .bind (Step.closesAt_change fun _ => rfl) fun _ => hfinish.bind fun _ => ?_
    exact (Step.closesAt_note _).bind fun _ => Step.closesAt_pure _
  intro w hw
  rw [run_call]
  exact hrun w hw

end Backend

namespace Wrapper

/-! ## The files of wrappers -/

inductive RunPath (s : Session σ) (api : Api) : Path → Prop where
  | wrapperFile {c : ClassDecl} {fileName : String} {path : Path} (hc : c ∈ api.classes)
      (hfile : fileName? c = some fileName) (hpath : s.classPath c fileName = .ok path) :
      RunPath s api path
  | index {name : String} {path : Path} (hname : s.moduleName = .ok name)
      (hpath : indexFile s (orFallback name) = .ok path) : RunPath s api path

inductive UsesPackage (s : Session σ) (api : Api) (package : String) : Prop where
  | session (h : s.packageText = .ok package)
  | ofClass {c : ClassDecl} (hc : c ∈ api.classes) (h : s.packageFor c.package = .ok package)

def indexName (name : String) : String := Text.lower (orFallback name) ++ "_module_wrapper.cpp"

theorem namesFile_wrapper {c : ClassDecl} {fileName : String} (hfile : fileName? c = some fileName)
    (hnames : ∀ name ∈ c.nesting, '/' ∉ name.toList) : Path.NamesFile fileName := by
  rw [fileName?] at hfile
  split at hfile
  · cases hfile
  · obtain rfl := Option.some.inj hfile
    have hlocal : '/' ∉ c.localName.toList := by
      rw [ClassDecl.localName, targetName, Text.dotted, String.toList_ofList]
      refine Text.not_mem_joinWith (by decide) fun item hitem => ?_
      obtain ⟨name, hname, rfl⟩ := List.mem_map.1 hitem
      exact hnames name hname
    have hinit : '/' ∉ (initName c).toList := by
      rw [initName, Text.replaceDots, String.toList_ofList, List.mem_map]
      rintro ⟨d, hd, heq⟩
      split at heq
      · cases heq
      · exact hlocal (heq ▸ hd)
    exact Path.namesFile_append (Text.slash_not_mem_lower hinit) (by decide) (by decide)

theorem namesFile_index {name : String} (hname : '/' ∉ name.toList) :
    Path.NamesFile (indexName name) := by
  have hmodule : '/' ∉ (orFallback name).toList := by
    rw [orFallback]
    split
    · decide
    · exact hname
  exact Path.namesFile_append (Text.slash_not_mem_lower hmodule) (by decide) (by decide)

variable {s : Session σ} {api : Api}

theorem indexFile_eq {name : String} {path : Path} (h : indexFile s (orFallback name) = .ok path) :
    ∃ out package, s.outputDirectory = .ok out ∧ s.packageText = .ok package ∧
      path = out / packageSteps package / Path.ofString (indexName name) := by
  rw [indexFile] at h
  cases hout : s.outputDirectory with
  | error e => rw [hout] at h; cases h
  | ok out =>
    cases hpackage : s.packageText with
    | error e => rw [hout, hpackage] at h; cases h
    | ok package =>
      have hinner : s.subDirectory package = .ok (Text.replaceDots '/' package) := by
        rw [Session.subDirectory_eq, Session.packageFor_of_packageText hpackage]
        rfl
      simp only [hout, hpackage, hinner, bind, Except.bind, pure, Except.pure] at h
      exact ⟨out, package, rfl, rfl, (Except.ok.inj h).symm⟩

theorem indexOutput_path {g : Generator WrapperState} {o : Output}
    (h : indexOutput g = .ok (some o)) : ∃ name, g.moduleName = .ok name ∧
      indexFile g.toSession (orFallback name) = .ok o.path := by
  rw [indexOutput] at h
  cases hfound : g.requireApi with
  | error e => rw [hfound] at h; cases h
  | ok api =>
    simp only [hfound, bind, Except.bind] at h
    split at h
    · cases h
    · cases hname : g.moduleName with
      | error e => rw [hname] at h; cases h
      | ok name =>
        cases hpath : indexFile g.toSession (orFallback name) with
        | error e => simp only [hname, hpath] at h; cases h
        | ok path =>
          refine ⟨name, rfl, ?_⟩
          simp only [hname, hpath] at h
          split at h
          · cases h
          · cases h
            exact hpath

theorem closesAt_finish {s : Session WrapperState} :
    wrapper.finish.ClosesAt s (RunPath s api) := by
  intro w hw
  obtain ⟨-, hdisk, hkept⟩ := run_finish w
  have hsession : (finish.run w).2.generator.toSession = s := by rw [hkept, hw]
  refine ⟨hsession, ?_⟩
  change w.disk.ClosedAt _ (finish.run w).2.disk
  rw [hdisk]
  cases hlast : indexOutput w.generator with
  | error e => exact .refl
  | ok o? =>
    cases o? with
    | none => exact .refl
    | some o =>
      obtain ⟨name, hname, hpath⟩ := indexOutput_path hlast
      rw [hw] at hname hpath
      exact .close .refl (.index hname hpath)

/-- Every run, whatever it comes to, closes the files of its classes and the module index and
nothing else. These are below the output directory as long as no package in use begins with a dot or
a slash. For a package that does, the output directory has no part in the path. -/
theorem run_below_output {s : Session WrapperState} (hapi : s.api = some api)
    (hclasses : ∀ c ∈ api.classes, ∀ name ∈ c.nesting, '/' ∉ name.toList)
    (hmodule : ∀ name, s.moduleName = .ok name → '/' ∉ name.toList) :
    (∀ c ∈ api.classes, ∀ fileName path, fileName? c = some fileName →
        s.classPath c fileName = .ok path → ∃ out package, s.outputDirectory = .ok out ∧
          s.packageFor c.package = .ok package ∧ Placed out package fileName path) ∧
      (∀ name path, s.moduleName = .ok name → indexFile s (orFallback name) = .ok path →
        ∃ out package, s.outputDirectory = .ok out ∧ s.packageText = .ok package ∧
          Placed out package (indexName name) path) ∧
      ∀ (k : Call) (w : World WrapperState), k.Fits api → w.generator.toSession = s →
        w.disk.ClosedAt (RunPath s api) ((wrapper.call k).run w).2.disk ∧
          ∀ out, s.outputDirectory = .ok out →
            (∀ package, UsesPackage s api package → ¬IsRooted package) →
              w.disk.ClosedAt (·.Inside out) ((wrapper.call k).run w).2.disk ∧
              ∀ loc, (∀ p : Path, p.Inside out → loc ≠ w.disk.target p) → ∀ bytes,
                ((wrapper.call k).run w).2.disk.get? loc = some (.file bytes) ↔
                  w.disk.get? loc = some (.file bytes) := by
  have hwrapper : ∀ c ∈ api.classes, ∀ fileName path, fileName? c = some fileName →
      s.classPath c fileName = .ok path → ∃ out package, s.outputDirectory = .ok out ∧
        s.packageFor c.package = .ok package ∧ Placed out package fileName path := by
    intro c hc fileName path hfile hpath
    obtain ⟨out, package, hout, hpackage, rfl⟩ := Session.classPath_eq hpath
    exact ⟨out, package, hout, hpackage, placed (namesFile_wrapper hfile (hclasses c hc))⟩
  have hindex : ∀ name path, s.moduleName = .ok name → indexFile s (orFallback name) = .ok path →
      ∃ out package, s.outputDirectory = .ok out ∧ s.packageText = .ok package ∧
        Placed out package (indexName name) path := by
    intro name path hname hpath
    obtain ⟨out, package, hout, hpackage, rfl⟩ := indexFile_eq hpath
    exact ⟨out, package, hout, hpackage, placed (namesFile_index (hmodule name hname))⟩
  refine ⟨hwrapper, hindex, fun k w hfits hw => ?_⟩
  have hclosed : w.disk.ClosedAt (RunPath s api) ((wrapper.call k).run w).2.disk := by
    refine (Backend.closesAt_call hapi hfits (fun c hc => ?_) closesAt_finish w hw).2
    intro fileName path hfile hpath
    exact .wrapperFile hc hfile hpath
  refine ⟨hclosed, fun out hout hplain => ?_⟩
  have hinside : ∀ p, RunPath s api p → p.Inside out := by
    rintro p (⟨hc, hfile, hpath⟩ | ⟨hname, hpath⟩)
    · obtain ⟨out', package, hout', hpackage, hplaced⟩ := hwrapper _ hc _ p hfile hpath
      obtain rfl := Except.ok.inj (hout.symm.trans hout')
      exact hplaced.below (hplain package (.ofClass hc hpackage))
    · obtain ⟨out', package, hout', hpackage, hplaced⟩ := hindex _ p hname hpath
      obtain rfl := Except.ok.inj (hout.symm.trans hout')
      exact hplaced.below (hplain package (.session hpackage))
  exact ⟨hclosed.mono hinside, fun loc hloc bytes => (hclosed.mono hinside).file_iff hloc⟩

theorem pair_below_output :
    (pairWorld "Foo" "Bar").generator.outputDirectory = .ok ⟨.relative, ["out"]⟩ ∧
      (∀ package, UsesPackage (pairWorld "Foo" "Bar").generator.toSession (pairApi "Foo" "Bar")
        package → ¬IsRooted package) ∧
      ∀ k : Call, k.Fits (pairApi "Foo" "Bar") →
        (pairWorld "Foo" "Bar").disk.ClosedAt (·.Inside ⟨.relative, ["out"]⟩)
          ((wrapper.call k).run (pairWorld "Foo" "Bar")).2.disk := by
  have hout : (pairWorld "Foo" "Bar").generator.outputDirectory = .ok ⟨.relative, ["out"]⟩ := by
    decide +kernel
  have hpackage : (pairWorld "Foo" "Bar").generator.packageText = .ok "pack" := by decide +kernel
  have hclasses : ∀ c ∈ (pairApi "Foo" "Bar").classes, c.package = "" ∧
      ∀ name ∈ c.nesting, '/' ∉ name.toList := by
    simp [pairApi, ClassDecl.nesting]
  have hmodule : ∀ name, (pairWorld "Foo" "Bar").generator.moduleName = .ok name →
      '/' ∉ name.toList := by
    intro name hname
    rw [Session.moduleName, hpackage] at hname
    obtain rfl := Except.ok.inj hname
    decide
  have hplain : ∀ package, UsesPackage (pairWorld "Foo" "Bar").generator.toSession
      (pairApi "Foo" "Bar") package → ¬IsRooted package := by
    intro package huses
    have hfound : (pairWorld "Foo" "Bar").generator.packageText = .ok package := by
      cases huses with
      | session h => exact h
      | ofClass hc h => rwa [(hclasses _ hc).1] at h
    obtain rfl := Except.ok.inj (hpackage.symm.trans hfound)
    simp [IsRooted]
  have hapi : (pairWorld "Foo" "Bar").generator.api = some (pairApi "Foo" "Bar") := rfl
  obtain ⟨-, -, hruns⟩ := run_below_output hapi (fun c hc => (hclasses c hc).2) hmodule
  refine ⟨hout, hplain, fun k hfits => ?_⟩
  exact ((hruns k (pairWorld "Foo" "Bar") hfits rfl).2 _ hout hplain).1

def rootedClass : ClassDecl :=
  { handle := 1, name := "Foo", package := ".p"
    entry := { handle := 2, kind := .object, name := "Foo" }
    functions := [{ handle := 3, name := "go" }] }

def rootedWorld : World WrapperState :=
  { pairWorld "Foo" "Bar" with
    generator := { (pairWorld "Foo" "Bar").generator with
      api := some { classes := [rootedClass] } } }

/-- The wrapper file goes to the root of the disk. -/
theorem output_directory_dropped :
    rootedWorld.generator.outputDirectory = .ok ⟨.relative, ["out"]⟩ ∧
      rootedWorld.generator.classPath rootedClass "foo_wrapper.cpp" =
        .ok ⟨.slash, ["p", "foo_wrapper.cpp"]⟩ ∧
      ¬Path.Inside ⟨.slash, ["p", "foo_wrapper.cpp"]⟩ ⟨.relative, ["out"]⟩ ∧
      rootedWorld.disk.isFile ⟨.slash, ["p", "foo_wrapper.cpp"]⟩ = false ∧
      ((wrapper.generate .null).run rootedWorld).2.disk.isFile
        ⟨.slash, ["p", "foo_wrapper.cpp"]⟩ = true := by
  refine ⟨by decide +kernel, by decide +kernel, ?_, by decide +kernel, by decide +kernel⟩
  rintro ⟨-, hroot, -⟩
  cases hroot

end Wrapper

end GlueCode
