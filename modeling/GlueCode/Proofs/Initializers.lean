import GlueCode.Proofs.IndexText
import GlueCode.Proofs.Progress
import Mathlib.Data.List.Nodup
/-! # Initializers that clash

All wrappers of a run define an initializer in one namespace, and so does the module index. The
package of a class has no part in the name of its initializer, and the names around a class are
joined by underscores, so that different classes may define the same one. What tells initializers
apart are the words that the names are made of. -/
namespace GlueCode

/-- The names around a class and its own, outermost first. -/
def ClassDecl.nesting (c : ClassDecl) : List String := c.enclosing.reverse ++ [c.name]

def wordsOf (name : String) : List (List Char) :=
  Text.splitAt '_' (Text.replaceDots '_' name).toList

def ClassDecl.words (c : ClassDecl) : List (List Char) := c.nesting.flatMap wordsOf

namespace Wrapper

theorem splitAt_initName (c : ClassDecl) : Text.splitAt '_' (initName c).toList = c.words := by
  have hne : (c.nesting.map fun name => (Text.replaceDots '_' name).toList) ≠ [] := by
    simp [ClassDecl.nesting]
  have hname : (initName c).toList =
      Text.joinWith ['_'] (c.nesting.map fun name => (Text.replaceDots '_' name).toList) := by
    simp only [initName, ClassDecl.localName, targetName, Option.toList_none, List.nil_append,
      Text.replaceDots, Text.dotted, String.toList_ofList, Text.map_joinWith, List.map_map]
    rfl
  rw [hname, Text.splitAt_joinWith hne, List.flatMap_map]
  rfl

theorem initName_eq_iff_words {c : ClassDecl} {name : String} :
    initName c = name ↔ c.words = Text.splitAt '_' name.toList := by
  rw [← splitAt_initName]
  constructor
  · rintro rfl
    rfl
  · intro h
    have hjoined := congrArg (Text.joinWith ['_']) h
    rw [Text.joinWith_splitAt, Text.joinWith_splitAt] at hjoined
    exact String.toList_inj.1 hjoined

theorem initName_eq_iff {c d : ClassDecl} : initName c = initName d ↔ c.words = d.words := by
  rw [initName_eq_iff_words, splitAt_initName]

def generated (s : Session WrapperState) (api : Api) : List ClassDecl :=
  api.classes.filter fun c => (wrapper.output? s c).isSome

def moduleFor (package : String) : String := orFallback (Text.moduleOf package)

def initializers (package : String) (classes : List ClassDecl) : List String :=
  classes.map initName ++ [moduleFor package]

/-- Every wrapper of a run ends with the definition of an initializer, and the index declares and
calls these, and defines that of the module, all in the namespace of the package. -/
structure DefinesInitializers (g : Generator WrapperState) (api : Api) (package : String) :
    Prop where
  named : g.package = .str package
  wrappers : ∀ c ∈ generated g.toSession api, ∃ o ∈ runOutputs g api,
    wrapper.output? g.toSession c = some o ∧
      ∃ before, o.text = before ++ closingBlock c (scopeOf package)
  index : ∃ o ∈ runOutputs g api, o.text = indexFileText g.settings.licenseComment package
    (moduleFor package) ((generated g.toSession api).map initName)

section

variable {g : Generator WrapperState} {s : Session WrapperState} {api : Api} {c : ClassDecl}
  {o : Output} {package : String}

theorem mem_runOutputs_of_output? (hc : c ∈ api.classes)
    (h : wrapper.output? g.toSession c = some o) : o ∈ runOutputs g api :=
  List.mem_append_left _ (List.mem_filterMap.2 ⟨c, hc, h⟩)

theorem indexNames_afterTasks
    (hproduced : ∀ c ∈ g.produced, (wrapper.output? g.toSession c).isSome) :
    indexNames (afterTasks g api) api = (generated g.toSession api).map initName := by
  unfold indexNames generated
  congr 1
  refine List.filter_congr fun c hc => ?_
  rw [Bool.eq_iff_iff, List.contains_iff_mem, afterTasks, List.mem_append, List.mem_filter]
  constructor
  · rintro (h | h)
    · exact h.2
    · exact hproduced c h
  · intro h
    exact .inl ⟨hc, h⟩

theorem classPath_ok {fileName : String} {path : Path} (h : s.classPath c fileName = .ok path) :
    ∃ directory, s.outputDirectory = .ok directory := by
  unfold Session.classPath at h
  cases hdirectory : s.outputDirectory with
  | error e => rw [hdirectory] at h; cases h
  | ok directory => exact ⟨directory, rfl⟩

theorem index?_some (htemplates : g.templates = wrapper.templates)
    (hproduced : ∀ c ∈ g.produced, (wrapper.output? g.toSession c).isSome)
    (hpackage : g.packageText = .ok package) {directory : Path}
    (hdirectory : g.outputDirectory = .ok directory) (hsome : generated g.toSession api ≠ []) :
    ∃ path, indexFile g.toSession (moduleFor package) = .ok path ∧
      index? (afterTasks g api) api = some ⟨path,
        indexFileText g.settings.licenseComment package (moduleFor package)
          ((generated g.toSession api).map initName), false⟩ := by
  have hnames : indexNames (afterTasks g api) api =
      (generated g.toSession api).map initName := indexNames_afterTasks hproduced
  have hmodule : (afterTasks g api).moduleName = .ok (Text.moduleOf package) := by
    show g.packageText.map _ = _
    rw [hpackage]
    rfl
  have hinner : ∃ inner, g.subDirectory package = .ok inner := by
    unfold Session.subDirectory
    split
    · rw [hpackage]
      exact ⟨_, rfl⟩
    · exact ⟨_, rfl⟩
  obtain ⟨inner, hinner⟩ := hinner
  have hpath : ∃ path, indexFile g.toSession (moduleFor package) = .ok path := by
    simp only [indexFile, hdirectory, hpackage, hinner, bind, Except.bind, pure, Except.pure]
    exact ⟨_, rfl⟩
  obtain ⟨path, hpath⟩ := hpath
  have htext := indexText_eq (s := (afterTasks g api).toSession) htemplates (moduleFor package)
    (indexNames (afterTasks g api) api)
  have hfound : (afterTasks g api).packageText = .ok package := hpackage
  rw [hfound, hnames] at htext
  have hfile : indexFile (afterTasks g api).toSession (moduleFor package) = .ok path := hpath
  refine ⟨path, hpath, ?_⟩
  rw [index?, if_neg (by simpa [hnames] using hsome)]
  simp only [hmodule]
  rw [← moduleFor, hfile, hnames, htext]
  rfl

theorem definesInitializers (htemplates : g.templates = wrapper.templates)
    (hproduced : ∀ c ∈ g.produced, (wrapper.output? g.toSession c).isSome)
    (hsome : generated g.toSession api ≠ []) :
    ∃ package, DefinesInitializers g api package := by
  have hcontent : ∀ c ∈ generated g.toSession api, ∃ o, wrapper.output? g.toSession c = some o ∧
      ∃ x, Gives g.toSession c x ∧ o.text = fileText c x := by
    intro c hc
    obtain ⟨o, ho⟩ := Option.isSome_iff_exists.1 (List.mem_filter.1 hc).2
    exact ⟨o, ho, content_of_classText htemplates (Backend.output?_some ho).2⟩
  obtain ⟨first, hfirst⟩ := List.exists_mem_of_ne_nil _ hsome
  obtain ⟨o, ho, x, hgives, -⟩ := hcontent first hfirst
  obtain ⟨⟨fileName, hpath⟩, -⟩ := Backend.output?_some ho
  obtain ⟨directory, hdirectory⟩ := classPath_ok hpath
  have hscope := hgives.scope
  rw [scopeName_eq] at hscope
  cases hpackage : g.packageText with
  | error e => rw [hpackage] at hscope; cases hscope
  | ok package =>
    refine ⟨package, packageText_ok_iff.1 hpackage, fun c hc => ?_, ?_⟩
    · obtain ⟨o, ho, x, hgives, htext⟩ := hcontent c hc
      have hscope := hgives.scope
      rw [scopeName_eq, hpackage] at hscope
      refine ⟨o, mem_runOutputs_of_output? (List.mem_filter.1 hc).1 ho, ho, ?_⟩
      rw [htext, Except.ok.inj hscope]
      exact closing_fileText c x
    · obtain ⟨path, -, hindex⟩ := index?_some htemplates hproduced hpackage hdirectory hsome
      have hmem : _ ∈ runOutputs g api :=
        List.mem_append_right _ (Option.mem_toList.2 (Option.mem_def.2 hindex))
      exact ⟨_, hmem, rfl⟩

end

theorem nodup_initializers {package : String} {classes : List ClassDecl} :
    (initializers package classes).Nodup ↔ (classes.map ClassDecl.words).Nodup ∧
      ∀ c ∈ classes, c.words ≠ Text.splitAt '_' (moduleFor package).toList := by
  have hclasses : (classes.map initName).Nodup ↔ (classes.map ClassDecl.words).Nodup := by
    simp only [List.Nodup, List.pairwise_map, ne_eq, initName_eq_iff]
  have hmodule : (∀ name ∈ classes.map initName, name ≠ moduleFor package) ↔
      ∀ c ∈ classes, c.words ≠ Text.splitAt '_' (moduleFor package).toList := by
    simp only [List.forall_mem_map, ne_eq, initName_eq_iff_words]
  rw [initializers, List.nodup_append, hclasses, ← hmodule]
  simp

theorem count_initializers {package : String} {classes : List ClassDecl} :
    (∀ c ∈ classes, (initializers package classes).count (initName c) = 1) ↔
      (initializers package classes).Nodup := by
  rw [List.nodup_iff_count_eq_one]
  constructor
  · intro h name hname
    by_cases hclass : name ∈ classes.map initName
    · obtain ⟨c, hc, rfl⟩ := List.mem_map.1 hclass
      exact h c hc
    · obtain rfl : name = moduleFor package := by
        simpa [initializers, hclass] using hname
      rw [initializers, List.count_append, List.count_eq_zero_of_not_mem hclass]
      simp
  · intro h c hc
    exact h _ (List.mem_append_left _ (List.mem_map_of_mem hc))

theorem length_generated (s : Session WrapperState) (api : Api) :
    (wrapper.outputs s api.classes).length = (generated s api).length := by
  rw [Backend.outputs, generated, List.length_filterMap_eq_countP, List.countP_eq_length_filter]

/-- The initializers of a run are told apart, and each call in the index means just one of them, if
and only if its classes are made of different words, none of them of those of the module. -/
theorem initializers_distinct_iff {w w' : World WrapperState} {api : Api} {workers : Json}
    {tally : Tally} (htemplates : w.generator.templates = wrapper.templates)
    (hapi : w.generator.api = some api)
    (hproduced : ∀ c ∈ w.generator.produced, (wrapper.output? w.generator.toSession c).isSome)
    (hrun : (wrapper.generate workers).run w = (.ok tally, w')) (hcount : tally.generated ≠ 0) :
    ∃ package classes, classes = generated w.generator.toSession api ∧
      tally.generated = classes.length ∧ DefinesInitializers w.generator api package ∧
      ((initializers package classes).Nodup ↔ (classes.map ClassDecl.words).Nodup ∧
        ∀ c ∈ classes, c.words ≠ Text.splitAt '_' (moduleFor package).toList) ∧
      ((∀ c ∈ classes, (initializers package classes).count (initName c) = 1) ↔
        (initializers package classes).Nodup) := by
  have hlength : tally.generated = (generated w.generator.toSession api).length := by
    obtain ⟨tallies, v, hdone, hend⟩ := Backend.generate_ok hapi hrun
    rw [(Backend.conclude_ok hend).1, hdone.generated, length_generated]
  have hsome : generated w.generator.toSession api ≠ [] := by
    intro hnone
    rw [hnone] at hlength
    exact hcount hlength
  obtain ⟨package, hdefines⟩ := definesInitializers htemplates hproduced hsome
  exact ⟨package, _, rfl, hlength, hdefines, nodup_initializers, count_initializers⟩

theorem output?_of_gives {s : Session WrapperState} {c : ClassDecl} {fileName : String}
    {path : Path} {x : Content} (htemplates : s.templates = wrapper.templates)
    (hwanted : c.entry.wanted.target = true) (hfile : fileName? c = some fileName)
    (hpath : s.classPath c fileName = .ok path) (h : Gives s c x) :
    wrapper.output? s c = some ⟨path, fileText c x, false⟩ := by
  have htext : (wrapper.classText s c).run.value = .ok (fileText c x) :=
    classText_of_gives htemplates h
  exact Backend.output?_eq_some_iff.2 ⟨hwanted, fileName, hfile, hpath, htext, rfl⟩

def goClass (handle : Nat) (name package : String) : ClassDecl :=
  { handle, name, package, entry := { handle, kind := .object, name }
    functions := [{ handle, name := "go" }] }

def twoApi (first second : ClassDecl) : Api := { classes := [first, second] }

def twoWorld (first second : ClassDecl) : World WrapperState :=
  { generator :=
      { wrapper.generator {} with api := some (twoApi first second), foundPackage := "pack" }
    disk := .blank ["home"] }

def goContent (header : String) : Content := ⟨.str "", header, "pack_wrappers", none, ""⟩

def indexPath : Path := Path.ofString "out/pack/pack_module_wrapper.cpp"

section

variable {first second : ClassDecl} {x y : Content} {firstPath secondPath : Path}

theorem twoWorld_generated
    (hfirst : wrapper.output? (twoWorld first second).generator.toSession first =
      some ⟨firstPath, fileText first x, false⟩)
    (hsecond : wrapper.output? (twoWorld first second).generator.toSession second =
      some ⟨secondPath, fileText second y, false⟩) :
    generated (twoWorld first second).generator.toSession (twoApi first second) =
      [first, second] := by
  simp [generated, twoApi, hfirst, hsecond]

theorem twoWorld_runs
    (hfirst : wrapper.output? (twoWorld first second).generator.toSession first =
      some ⟨firstPath, fileText first x, false⟩)
    (hsecond : wrapper.output? (twoWorld first second).generator.toSession second =
      some ⟨secondPath, fileText second y, false⟩)
    (hindex : indexFile (twoWorld first second).generator.toSession "pack" = .ok indexPath)
    (hclose : ((twoWorld first second).disk.closeAll?
      [⟨firstPath, fileText first x, false⟩, ⟨secondPath, fileText second y, false⟩,
        ⟨indexPath, indexFileText (.str "") "pack" "pack" [initName first, initName second],
          false⟩]).isSome) :
    ∃ tally w', (wrapper.generate .null).run (twoWorld first second) = (.ok tally, w') ∧
      tally.generated = 2 := by
  have hgenerated := twoWorld_generated hfirst hsecond
  have hmodule : moduleFor "pack" = "pack" := rfl
  have hpackage : (twoWorld first second).generator.packageText = .ok "pack" := rfl
  have hsome :
      generated (twoWorld first second).generator.toSession (twoApi first second) ≠ [] := by
    simp [hgenerated]
  obtain ⟨path, hpath, hlast⟩ := index?_some rfl (by intro c hc; cases hc) hpackage rfl hsome
  rw [hmodule] at hpath hlast
  obtain rfl : indexPath = path := Except.ok.inj (hindex.symm.trans hpath)
  rw [hgenerated] at hlast
  have houtputs : runOutputs (twoWorld first second).generator (twoApi first second) =
      [⟨firstPath, fileText first x, false⟩, ⟨secondPath, fileText second y, false⟩,
        ⟨indexPath, indexFileText (.str "") "pack" "pack" [initName first, initName second],
          false⟩] := by
    rw [runOutputs, hlast]
    simp [Backend.outputs, twoApi, hfirst, hsecond]
    rfl
  have hapi : (twoWorld first second).generator.api = some (twoApi first second) := rfl
  have hworkers : (twoWorld first second).generator.isParallel .null = .ok false := rfl
  obtain ⟨tally, w', hrun⟩ := run_ok hapi hworkers (by simp [twoApi, hfirst, hsecond])
    (by rw [hlast]; rfl) (by rw [houtputs]; exact hclose)
  refine ⟨tally, w', hrun, ?_⟩
  obtain ⟨tallies, v, hdone, hend⟩ := Backend.generate_ok hapi hrun
  rw [(Backend.conclude_ok hend).1, hdone.generated, length_generated, hgenerated]
  rfl

end

section

variable {first second : ClassDecl} {handle : Nat} {name package header : String}

theorem goClass_gives (hheader : headerOf "{name}.h" (goClass handle name package) = .ok header) :
    Gives (twoWorld first second).generator.toSession (goClass handle name package)
      (goContent header) where
  license := rfl
  header := hheader
  scope := show Except.ok (scopeOf "pack") = .ok "pack_wrappers" from rfl
  constructors := rfl
  sample := rfl
  methods := by
    simp [requireTexts, wrappedMethods, goClass, Callable.isDeclarable, Callable.argumentsFor,
      Callable.canExpand, hasTypeText]
  injected := rfl

theorem goClass_output {path : Path}
    (hheader : headerOf "{name}.h" (goClass handle name package) = .ok header)
    (hpath : (twoWorld first second).generator.toSession.classPath (goClass handle name package)
      (Text.lower (initName (goClass handle name package)) ++ "_wrapper.cpp") = .ok path) :
    wrapper.output? (twoWorld first second).generator.toSession (goClass handle name package) =
      some ⟨path, fileText (goClass handle name package) (goContent header), false⟩ :=
  output?_of_gives rfl rfl rfl hpath (goClass_gives hheader)

end

def fooClass : ClassDecl := goClass 1 "Foo" ""

def barClass : ClassDecl := goClass 2 "Bar" ""

theorem foo_output : wrapper.output? (twoWorld fooClass barClass).generator.toSession fooClass =
    some ⟨Path.ofString "out/pack/foo_wrapper.cpp", fileText fooClass (goContent "foo.h"), false⟩ :=
  goClass_output rfl rfl

theorem bar_output : wrapper.output? (twoWorld fooClass barClass).generator.toSession barClass =
    some ⟨Path.ofString "out/pack/bar_wrapper.cpp", fileText barClass (goContent "bar.h"), false⟩ :=
  goClass_output rfl rfl

theorem foo_and_bar_distinct : ∃ tally w',
    (wrapper.generate .null).run (twoWorld fooClass barClass) = (.ok tally, w') ∧
      tally.generated = 2 ∧
      DefinesInitializers (twoWorld fooClass barClass).generator (twoApi fooClass barClass) "pack" ∧
      (initializers "pack" [fooClass, barClass]).Nodup := by
  obtain ⟨tally, w', hrun, hcount⟩ := twoWorld_runs foo_output bar_output (by decide +kernel)
    (by decide +kernel)
  obtain ⟨package, classes, hclasses, -, hdefines, hnodup, -⟩ :=
    initializers_distinct_iff (w := twoWorld fooClass barClass) rfl rfl (fun c hc => nomatch hc)
      hrun (by rw [hcount]; decide)
  obtain rfl : "pack" = package := Json.str.inj hdefines.named
  rw [twoWorld_generated foo_output bar_output] at hclasses
  subst hclasses
  exact ⟨tally, w', hrun, hcount, hdefines, hnodup.2 (by decide +kernel)⟩

def firstPack : ClassDecl := goClass 1 "pack" "a"

def secondPack : ClassDecl := goClass 2 "pack" "b"

theorem firstPack_output :
    wrapper.output? (twoWorld firstPack secondPack).generator.toSession firstPack =
      some ⟨Path.ofString "out/a/pack_wrapper.cpp", fileText firstPack (goContent "pack.h"),
        false⟩ :=
  goClass_output rfl rfl

theorem secondPack_output :
    wrapper.output? (twoWorld firstPack secondPack).generator.toSession secondPack =
      some ⟨Path.ofString "out/b/pack_wrapper.cpp", fileText secondPack (goContent "pack.h"),
        false⟩ :=
  goClass_output rfl rfl

/-- Two classes of one name in different packages, named like the module: their files are apart, but
the namespace has three definitions of one initializer. -/
theorem packs_clash : ∃ tally w',
    (wrapper.generate .null).run (twoWorld firstPack secondPack) = (.ok tally, w') ∧
      generated (twoWorld firstPack secondPack).generator.toSession (twoApi firstPack secondPack) =
        [firstPack, secondPack] ∧ firstPack ≠ secondPack ∧
      DefinesInitializers (twoWorld firstPack secondPack).generator
        (twoApi firstPack secondPack) "pack" ∧
      initializers "pack" [firstPack, secondPack] = ["pack", "pack", "pack"] := by
  have hgenerated := twoWorld_generated firstPack_output secondPack_output
  obtain ⟨tally, w', hrun, -⟩ := twoWorld_runs firstPack_output secondPack_output
    (by decide +kernel) (by decide +kernel)
  have hsome : generated (twoWorld firstPack secondPack).generator.toSession
      (twoApi firstPack secondPack) ≠ [] := by simp [hgenerated]
  obtain ⟨package, hdefines⟩ := definesInitializers rfl (by intro c hc; cases hc) hsome
  obtain rfl : "pack" = package := Json.str.inj hdefines.named
  exact ⟨tally, w', hrun, hgenerated, by decide +kernel, hdefines, by decide +kernel⟩

end Wrapper

end GlueCode
