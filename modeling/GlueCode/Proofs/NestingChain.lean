import GlueCode.Proofs.Initializers
/-! # Names along a chain of classes

A dotted name lists what stands around a declaration, from the package to the class next to it.
Read at its dots it gives the segments of the package, then the classes from the outermost inward,
then the name itself. The empty package has no segments, but it is written in front like any other:
the full name then begins with a dot, and so with an empty segment. -/
namespace GlueCode

/-- The classes around a declaration, innermost first: around each one stand those after it. -/
inductive StandAround : List String → List ClassHead → Prop where
  | top : StandAround [] []
  | inside (outer : ClassHead) {rest : List ClassHead} (h : StandAround outer.enclosing rest) :
      StandAround (outer.name :: outer.enclosing) (outer :: rest)

def chainNames (around : List ClassHead) (name : String) : List String :=
  (around.map (·.name)).reverse ++ [name]

theorem StandAround.names {enclosing : List String} {around : List ClassHead}
    (h : StandAround enclosing around) : enclosing = around.map (·.name) := by
  induction h with
  | top => rfl
  | inside _ _ ih => rw [List.map_cons, ← ih]

theorem exists_standAround (enclosing : List String) : ∃ around, StandAround enclosing around := by
  induction enclosing with
  | nil => exact ⟨[], .top⟩
  | cons name rest ih =>
    obtain ⟨around, h⟩ := ih
    let outer : ClassHead := ⟨0, name, default, "", rest⟩
    exact ⟨outer :: around, .inside outer h⟩

def IsSegment (name : String) : Prop := name ≠ "" ∧ '.' ∉ name.toList

/-- The dotted name splits at its dots into these segments, none of which is empty. -/
structure ReadsAs (dotted : String) (segments : List String) : Prop where
  splits : Text.dotSegments dotted = segments
  filled : "" ∉ Text.dotSegments dotted

/-- What stands in the place of the package when the name is read. -/
def writtenPackage (segments : List String) : List String :=
  if segments = [] then [""] else segments

theorem dotSegments_of_segments {names : List String} (h : ∀ name ∈ names, IsSegment name) :
    names.flatMap Text.dotSegments = names := by
  have hone : ∀ name ∈ names, Text.dotSegments name = [name] := fun name hname =>
    Text.dotSegments_of_not_mem (h name hname).2
  rw [List.flatMap_congr hone, List.flatMap_singleton']

theorem filled_of_segments {names : List String} (h : ∀ name ∈ names, IsSegment name) :
    "" ∉ names := fun hmem => (h "" hmem).1 rfl

theorem dotSegments_package {segments : List String} (h : ∀ s ∈ segments, IsSegment s) :
    Text.dotSegments (Text.dotted segments) = writtenPackage segments := by
  by_cases hempty : segments = []
  · subst hempty
    rfl
  · rw [Text.dotSegments_dotted hempty, dotSegments_of_segments h, writtenPackage, if_neg hempty]

section

variable {segments enclosing : List String} {around : List ClassHead} {name : String}

theorem dotSegments_targetName (package : Option String) (haround : StandAround enclosing around)
    (hnames : ∀ n ∈ chainNames around name, IsSegment n) :
    Text.dotSegments (targetName package enclosing name) =
      package.toList.flatMap Text.dotSegments ++ chainNames around name := by
  have hchain : enclosing.reverse ++ [name] = chainNames around name := by
    rw [chainNames, haround.names]
  rw [targetName, List.append_assoc, hchain, Text.dotSegments_dotted (by simp [chainNames]),
    List.flatMap_append, dotSegments_of_segments hnames]

theorem targetName_reads (haround : StandAround enclosing around)
    (hnames : ∀ n ∈ chainNames around name, IsSegment n) :
    ReadsAs (targetName none enclosing name) (chainNames around name) := by
  have hsplits : Text.dotSegments (targetName none enclosing name) = chainNames around name :=
    dotSegments_targetName none haround hnames
  constructor
  · exact hsplits
  · rw [hsplits]
    exact filled_of_segments hnames

theorem targetName_package_splits (hpackage : ∀ s ∈ segments, IsSegment s)
    (haround : StandAround enclosing around) (hnames : ∀ n ∈ chainNames around name, IsSegment n) :
    Text.dotSegments (targetName (some (Text.dotted segments)) enclosing name) =
      writtenPackage segments ++ chainNames around name := by
  rw [dotSegments_targetName _ haround hnames, Option.toList_some, List.flatMap_singleton,
    dotSegments_package hpackage]

theorem targetName_package_reads_iff (hpackage : ∀ s ∈ segments, IsSegment s)
    (haround : StandAround enclosing around) (hnames : ∀ n ∈ chainNames around name, IsSegment n) :
    ReadsAs (targetName (some (Text.dotted segments)) enclosing name)
      (segments ++ chainNames around name) ↔ segments ≠ [] := by
  have hsplits := targetName_package_splits hpackage haround hnames
  constructor
  · rintro ⟨-, hfilled⟩ rfl
    rw [hsplits] at hfilled
    exact hfilled (List.mem_append_left _ List.mem_cons_self)
  · intro hsome
    rw [writtenPackage, if_neg hsome] at hsplits
    constructor
    · exact hsplits
    · rw [hsplits, List.mem_append, not_or]
      exact ⟨filled_of_segments hpackage, filled_of_segments hnames⟩

end

def EnumDecl.localName (e : EnumDecl) : String := targetName none e.enclosing e.name

/-- The two names of a declaration that stands in a package at the end of a chain: without the
package the chain alone is read; with it the package is read in front, and nothing but the names
and the segments is read just when the package is not empty. -/
structure NamedBy (segments chain : List String) (shortName fullName : String) : Prop where
  short : ReadsAs shortName chain
  full : Text.dotSegments fullName = writtenPackage segments ++ chain
  full_reads_iff : ReadsAs fullName (segments ++ chain) ↔ segments ≠ []

/-- For every package, given by its segments, and every chain of classes. -/
theorem names_of_chain {segments : List String} (hpackage : ∀ s ∈ segments, IsSegment s) :
    (∀ (c : ClassDecl) (around : List ClassHead), c.package = Text.dotted segments →
      StandAround c.enclosing around → (∀ n ∈ chainNames around c.name, IsSegment n) →
        NamedBy segments (chainNames around c.name) c.localName c.fullName) ∧
    (∀ (e : EnumDecl) (around : List ClassHead), e.package = Text.dotted segments →
      StandAround e.enclosing around → (∀ n ∈ chainNames around e.name, IsSegment n) →
        NamedBy segments (chainNames around e.name) e.localName e.fullName) := by
  constructor
  · intro c around hc haround hnames
    rw [ClassDecl.fullName, hc]
    exact ⟨targetName_reads haround hnames, targetName_package_splits hpackage haround hnames,
      targetName_package_reads_iff hpackage haround hnames⟩
  · intro e around he haround hnames
    rw [EnumDecl.fullName, he]
    exact ⟨targetName_reads haround hnames, targetName_package_splits hpackage haround hnames,
      targetName_package_reads_iff hpackage haround hnames⟩

def widgetColor (package : String) : EnumDecl :=
  { handle := 1, name := "Color", entry := default, package := package, enclosing := ["Widget"] }

def widgetHead (package : String) : ClassHead := ⟨0, "Widget", default, package, []⟩

theorem gui_widget_color :
    (∀ s ∈ ["gui"], IsSegment s) ∧ StandAround ["Widget"] [widgetHead "gui"] ∧
      (widgetColor "gui").fullName = "gui.Widget.Color" ∧
      ReadsAs (widgetColor "gui").fullName ["gui", "Widget", "Color"] ∧
      ReadsAs (widgetColor "gui").localName ["Widget", "Color"] := by
  have hpackage : ∀ s ∈ ["gui"], IsSegment s := by simp [IsSegment]
  have haround : StandAround (widgetColor "gui").enclosing [widgetHead "gui"] :=
    .inside (widgetHead "gui") .top
  have hnames : ∀ n ∈ chainNames [widgetHead "gui"] (widgetColor "gui").name, IsSegment n := by
    simp [chainNames, widgetHead, widgetColor, IsSegment]
  have hnamed := (names_of_chain hpackage).2 (widgetColor "gui") [widgetHead "gui"] rfl haround
    hnames
  exact ⟨hpackage, haround, rfl, hnamed.full_reads_iff.2 (List.cons_ne_nil _ _), hnamed.short⟩

/-- A class and an enum of no package: their names begin with an empty segment. -/
theorem empty_package_segment :
    (⟨widgetHead "", [], []⟩ : ClassDecl).fullName = ".Widget" ∧
      ¬ ReadsAs (⟨widgetHead "", [], []⟩ : ClassDecl).fullName ["Widget"] ∧
      (widgetColor "").fullName = ".Widget.Color" ∧
      ¬ ReadsAs (widgetColor "").fullName ["Widget", "Color"] := by
  have hclass : Text.dotSegments ".Widget" = ["", "Widget"] := rfl
  have henum : Text.dotSegments ".Widget.Color" = ["", "Widget", "Color"] := rfl
  refine ⟨rfl, ?_, rfl, ?_⟩
  · rintro ⟨-, hfilled⟩
    exact hfilled (hclass ▸ List.mem_cons_self)
  · rintro ⟨-, hfilled⟩
    exact hfilled (henum ▸ List.mem_cons_self)

end GlueCode
