import GlueCode.Text.Lines
/-! # Dotted names

Packages, classes and enums carry dotted names. A package is a directory for each of its segments,
and its module is named after the last one.
-/
namespace GlueCode.Text

def dotSegments (name : String) : List String :=
  (splitAt '.' name.toList).map String.ofList

def dotted (segments : List String) : String :=
  String.ofList (joinWith ['.'] (segments.map String.toList))

def replaceDots (c : Char) (name : String) : String :=
  String.ofList (name.toList.map fun d => if d = '.' then c else d)

/-- The directory of a package; the package `fallback` stands in for an empty one. -/
def packageDirectory (package fallback : String) : String :=
  replaceDots '/' (if package.isEmpty then fallback else package)

def moduleOf (package : String) : String :=
  (dotSegments package).getLast?.getD ""

@[simp] theorem dotSegments_empty : dotSegments "" = [""] := rfl

theorem dotSegments_of_not_mem {name : String} (h : '.' ∉ name.toList) :
    dotSegments name = [name] := by
  rw [dotSegments, splitAt_of_not_mem h, List.map_singleton, String.ofList_toList]

theorem dotSegments_dotted {segments : List String} (h : segments ≠ []) :
    dotSegments (dotted segments) = segments.flatMap dotSegments := by
  have hpieces : segments.map String.toList ≠ [] := by simpa using h
  rw [dotSegments, dotted, String.toList_ofList, splitAt_joinWith hpieces, List.flatMap_map,
    List.map_flatMap]
  rfl

theorem dot_not_mem_replaceDots {c : Char} (hc : c ≠ '.') (name : String) :
    '.' ∉ (replaceDots c name).toList := by
  rw [replaceDots, String.toList_ofList, List.mem_map]
  rintro ⟨d, -, hd⟩
  split at hd
  · exact hc hd
  · next hne => exact hne hd

end GlueCode.Text
