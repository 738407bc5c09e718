import GlueCode.Proofs.Forwarders
/-! # Forwarders that return a value

A forwarder returns what the method gives when the entry of the method's result is not void. A
pointer to void is a use of the entry void too, so a method that gives one is called without a
return, although the head of its forwarder declares the pointer. -/
namespace GlueCode

namespace Text

theorem splitAt_append_of_not_mem {sep : Char} {start rest piece : List Char}
    {pieces : List (List Char)} (hstart : sep ∉ start)
    (hrest : splitAt sep rest = piece :: pieces) :
    splitAt sep (start ++ rest) = (start ++ piece) :: pieces := by
  induction start with
  | nil => exact hrest
  | cons c start ih =>
    simp only [List.mem_cons, not_or] at hstart
    rw [List.cons_append, splitAt, if_neg (Ne.symm hstart.1), ih hstart.2]
    rfl

theorem reindentText_start (first : Char) (inner : List Char) (last : Char) {indent : List Char}
    (hfirst : isBlank first = false) (hlast : isBlank last = false)
    (hbreak : '\n' ∉ first :: (inner ++ [last])) (rest : List Char) :
    ∃ later, reindentText indent (first :: (inner ++ [last]) ++ rest) =
      indent ++ first :: (inner ++ [last]) ++ later := by
  obtain ⟨piece, pieces, hpieces⟩ := List.exists_cons_of_ne_nil (splitAt_ne_nil '\n' rest)
  have hlines := splitAt_append_of_not_mem hbreak hpieces
  let line := first :: (inner ++ [last]) ++ piece
  have hfilled : isBlankLine line = false := by simp [line, isBlankLine, hfirst]
  have hcommon : commonMargin (line :: pieces) = 0 := by
    rw [commonMargin_cons_of_filled hfilled]
    exact margin_cons_of_filled hfirst _
  have htrim : trimEnd line = first :: (inner ++ [last]) ++ trimEnd piece := by
    have hkept := trimEnd_append_cons hlast (first :: inner) piece
    simpa [line] using hkept
  have hline : reindentLine 0 indent line =
      indent ++ first :: (inner ++ [last]) ++ trimEnd piece := by
    rw [reindentLine, if_neg (by simp [hfilled]), htrim]
    simp [dropMargin]
  rw [reindentText, reindent, lines, hlines, hcommon, List.map_cons, hline, unlines]
  by_cases hnone : pieces = []
  · exact ⟨trimEnd piece, by rw [hnone]; rfl⟩
  · rw [joinWith_cons (by simpa using hnone)]
    exact ⟨_, by rw [List.append_assoc, List.append_assoc]⟩

end Text

def TypeUse.IsPlainVoid (t : TypeUse) : Prop := t.entry.isVoid = true ∧ t.indirections = 0

def TypeUse.PointsToVoid (t : TypeUse) : Prop := t.entry.isVoid = true ∧ 0 < t.indirections

/-- The function has a result that is more than plain void. -/
def Callable.GivesValue (f : Callable) : Prop := ∃ t, f.result = some t ∧ ¬t.IsPlainVoid

namespace Wrapper

variable {c : ClassDecl} {f : Callable}

def IsReturn (body : String) : Prop := ∃ rest, body = "    return " ++ rest

theorem returnsValue_iff :
    returnsValue f = true ↔ ∃ t, f.result = some t ∧ t.entry.isVoid = false := by
  unfold returnsValue
  cases f.result <;> simp

theorem forwarderBody_start (f : Callable) : ∃ rest, forwarderBody f =
    "    " ++ (if returnsValue f then "return " else "") ++ "self->" ++ rest := by
  let start := (if returnsValue f then ['r', 'e', 't', 'u', 'r', 'n', ' '] else [])
    ++ ['s', 'e', 'l', 'f', '-', '>']
  have hcall : ∃ rest, (writer.expand f (forwardCall f)).toList = start ++ rest := by
    refine ⟨(String.join [f.libraryName, "(", f.nameList, ");"]).toList, ?_⟩
    rw [expand_forwardCall]
    simp only [start]
    split <;> simp
  obtain ⟨rest, hcall⟩ := hcall
  have hindented : ∃ later, Text.reindentText [' ', ' ', ' ', ' '] (start ++ rest) =
      [' ', ' ', ' ', ' '] ++ start ++ later := by
    simp only [start]
    split
    · exact Text.reindentText_start 'r' ['e', 't', 'u', 'r', 'n', ' ', 's', 'e', 'l', 'f', '-'] '>'
        (by decide) (by decide) (by decide) rest
    · exact Text.reindentText_start 's' ['e', 'l', 'f', '-'] '>'
        (by decide) (by decide) (by decide) rest
  obtain ⟨later, hlater⟩ := hindented
  refine ⟨String.ofList later, ?_⟩
  apply String.toList_inj.1
  rw [forwarderBody, hcall, hlater]
  simp only [start]
  split <;> simp

theorem isReturn_forwarderBody : IsReturn (forwarderBody f) ↔ returnsValue f = true := by
  obtain ⟨rest, hstart⟩ := forwarderBody_start f
  rw [hstart, IsReturn]
  constructor
  · rintro ⟨other, hsame⟩
    by_contra hreturns
    have hsecond := congrArg (·.toList[4]?) hsame
    simp [hreturns] at hsecond
  · intro hreturns
    refine ⟨"self->" ++ rest, ?_⟩
    apply String.toList_inj.1
    simp [hreturns]

theorem returnsValue_iff_givesValue : (returnsValue f = true ↔ f.GivesValue) ↔
    ∀ t, f.result = some t → ¬t.PointsToVoid := by
  unfold Callable.GivesValue TypeUse.IsPlainVoid TypeUse.PointsToVoid
  rw [returnsValue_iff]
  cases f.result with
  | none => simp
  | some t => cases hvoid : t.entry.isVoid <;> simp [hvoid, Nat.pos_iff_ne_zero]

/-- In every wrapper file, the body of a forwarder is a return statement just when the entry of the
method's result is not void. So a forwarder returns a value exactly when its method gives one,
unless the method gives a pointer to void. -/
theorem value_returned_iff {s : Session WrapperState} (htemplates : s.templates = wrapper.templates)
    {text : String} (h : (classText s c).run.value = .ok text) :
    ∃ x, Gives s c x ∧ text = fileText c x ∧ ∀ f ∈ wrappedMethods c,
      (IsReturn (forwarderBody f) ↔ ∃ t, f.result = some t ∧ t.entry.isVoid = false) ∧
      ((IsReturn (forwarderBody f) ↔ f.GivesValue) ↔
        ∀ t, f.result = some t → ¬t.PointsToVoid) := by
  obtain ⟨x, hgives, hfile⟩ := content_of_classText htemplates h
  refine ⟨x, hgives, hfile, fun f _ => ?_⟩
  rw [isReturn_forwarderBody]
  exact ⟨returnsValue_iff, returnsValue_iff_givesValue⟩

def voidEntry : Entry := { handle := 2, kind := .void, name := "void" }

def dataMethod : Callable :=
  { handle := 4, name := "data", result := some { entry := voidEntry, indirections := 1 } }

def clearMethod : Callable :=
  { handle := 5, name := "clear", result := some { entry := voidEntry } }

def sizeMethod : Callable :=
  { handle := 6, name := "size"
    result := some { entry := { handle := 3, kind := .builtin, name := "int" } } }

def bufferClass : ClassDecl :=
  { handle := 7, name := "Buffer", package := "craft"
    entry := { handle := 1, kind := .object, name := "Buffer" }
    functions := [dataMethod, clearMethod, sizeMethod] }

def bufferSession : Session WrapperState :=
  { spoolSession with settings := {}, api := some { classes := [bufferClass] } }

def bufferContent : Content := ⟨.str "", "buffer.h", "craft_wrappers", none, ""⟩

theorem bufferContent_given : Gives bufferSession bufferClass bufferContent :=
  ⟨rfl, by decide +kernel, by decide +kernel, by decide +kernel, by decide +kernel,
    by decide +kernel, by decide +kernel⟩

theorem size_returned : ∃ x, Gives bufferSession bufferClass x ∧
    fileText bufferClass bufferContent = fileText bufferClass x ∧
    IsReturn (forwarderBody sizeMethod) ∧ sizeMethod.GivesValue ∧
    ¬IsReturn (forwarderBody clearMethod) ∧ ¬clearMethod.GivesValue := by
  obtain ⟨x, hgives, hfile, hmethods⟩ :=
    value_returned_iff rfl (classText_of_gives rfl bufferContent_given)
  obtain ⟨hsize, hgiven⟩ := hmethods sizeMethod (by simp [wrappedMethods, bufferClass, sizeMethod,
    dataMethod, clearMethod])
  obtain ⟨hclear, hkept⟩ := hmethods clearMethod (by simp [wrappedMethods, bufferClass, sizeMethod,
    dataMethod, clearMethod])
  have hreturned : IsReturn (forwarderBody sizeMethod) := hsize.2 ⟨_, rfl, rfl⟩
  have hdropped : ¬IsReturn (forwarderBody clearMethod) := by
    rw [hclear]
    rintro ⟨t, ⟨⟩, ht⟩
    cases ht
  refine ⟨x, hgives, hfile, hreturned, (hgiven.2 ?_).1 hreturned, hdropped,
    fun hvalue => hdropped ((hkept.2 ?_).2 hvalue)⟩
  · rintro t ⟨⟩ ⟨hvoid, -⟩
    cases hvoid
  · rintro t ⟨⟩ ⟨-, hpointer⟩
    cases hpointer

/-- The head of the forwarder declares a pointer, and its body returns nothing. -/
theorem pointer_dropped : dataMethod ∈ wrappedMethods bufferClass ∧ dataMethod.GivesValue ∧
    ¬IsReturn (forwarderBody dataMethod) ∧
    forwarderBlock bufferClass dataMethod =
      "void* Buffer_data(::Buffer* self)\n\x7b\n    self->data();\n\x7d\n\n" := by
  refine ⟨by decide +kernel, ⟨_, rfl, fun h => by cases h.2⟩, ?_, by decide +kernel⟩
  rw [isReturn_forwarderBody]
  decide

end Wrapper

end GlueCode
