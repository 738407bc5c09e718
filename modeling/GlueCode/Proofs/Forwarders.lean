import GlueCode.Proofs.Snippets
import GlueCode.Proofs.WrapperText
/-! # What forwarders pass on

The head of a maker or a forwarder declares the arguments that are kept, and its call passes on the
names of the same arguments. The head is written at once, while the call is a snippet whose
placeholders are filled; as a filled placeholder is not looked at again, a percent sign in a name
does no harm. -/
namespace GlueCode

variable {value : Slot → Option (List Char)}

theorem expand_plain {word : List Char} (hword : '%' ∉ word) (rest : List Char) :
    expand value (word ++ rest) = word ++ expand value rest := by
  induction word with
  | nil => rfl
  | cons c word ih =>
    simp only [List.mem_cons, not_or] at hword
    have hpieces : pieces (c :: (word ++ rest)) = .plain c :: pieces (word ++ rest) := by
      rw [pieces, piecesFrom, if_neg (Ne.symm hword.1), pieces]
    rw [List.cons_append, expand, hpieces, List.flatMap_cons, ← expand, ih hword.2]
    rfl

theorem expand_slot {s : Slot} {text rest : List Char} (hat : Slot.at? (s.name ++ rest) = some s)
    (hvalue : value s = some text) :
    expand value ('%' :: (s.name ++ rest)) = text ++ expand value rest := by
  have hpieces : pieces ('%' :: (s.name ++ rest)) = .slot s :: pieces rest := by
    rw [pieces, piecesFrom, if_pos rfl, hat]
    simp only
    rw [piecesFrom_skip, pieces]
  rw [expand, hpieces, List.flatMap_cons, ← expand, Piece.fill, hvalue, Option.getD_some]

theorem name_argumentNames : Slot.argumentNames.name = "ARGUMENT_NAMES".toList := rfl

theorem name_functionName : Slot.functionName.name = "FUNCTION_NAME".toList := rfl

namespace Text

theorem reindentText_line (first last : Char) {indent line inner : List Char}
    (hline : line = first :: inner ++ [last]) (hbreak : '\n' ∉ line)
    (hfirst : isBlank first = false) (hlast : isBlank last = false) :
    reindentText indent line = indent ++ line := by
  have hfilled : isBlankLine line = false := by simp [hline, isBlankLine, hfirst]
  have hcommon : commonMargin [line] = 0 := by
    rw [commonMargin_cons_of_filled hfilled, hline]
    exact margin_cons_of_filled hfirst _
  rw [reindentText, reindent, lines, splitAt_of_not_mem hbreak, List.map_singleton, reindentLine,
    hcommon, if_neg (by simp [hfilled]), hline, trimEnd_append_cons hlast]
  rfl

end Text

namespace Callable

def kept (f : Callable) : List Argument := f.arguments.filter (!·.removed)

def parameterList (f : Callable) : String :=
  Text.commaList (f.kept.map fun a => typeText {} f.owner a.type? ++ " " ++ a.name)

def nameList (f : Callable) : String := Text.commaList (f.kept.map (·.name))

end Callable

namespace Wrapper

variable {c : ClassDecl} {f : Callable}

theorem argumentsFor_kept {o : TextOptions} (h : o.withoutRemoved = true) :
    f.argumentsFor o = f.kept := by
  simp [Callable.argumentsFor, Callable.kept, h]

theorem headArguments_eq (f : Callable) : headArguments f = f.parameterList := by
  rw [headArguments, Callable.plainDeclarations, argumentsFor_kept rfl, Callable.parameterList]
  simp [Argument.declaration, ArgumentWriter.declarationOptions, TextOptions.forTypes,
    String.append_assoc]

theorem slotValue_names (f : Callable) :
    f.slotValue (writer.texts f) .argumentNames = some f.nameList.toList := by
  have hnames : f.plainNames ArgumentWriter.namesOptions = f.nameList := by
    unfold Callable.plainNames Callable.nameList
    rw [argumentsFor_kept rfl]
  rw [← hnames]
  rfl

theorem parameterList_eq_empty_iff : f.parameterList = "" ↔ f.kept = [] := by
  unfold Callable.parameterList Text.commaList
  cases f.kept with
  | nil => simp [Text.joinWith]
  | cons a rest => cases rest <;> simp [Text.joinWith]

theorem expand_rest {rest : List Char} (h : '%' ∉ rest) : expand value rest = rest := by
  have hnil : expand value [] = [] := rfl
  have hrest : expand value (rest ++ []) = rest ++ expand value [] := expand_plain h []
  rwa [List.append_nil, hnil, List.append_nil] at hrest

theorem expand_constructorCall (hname : '%' ∉ c.qualifiedName.toList) :
    writer.expand f (constructorCall c) =
      String.join ["new ::", c.qualifiedName, "(", f.nameList, ")"] := by
  have hcode : (constructorCall c).toList = ['n', 'e', 'w', ' ', ':', ':'] ++
      (c.qualifiedName.toList ++ (['('] ++ '%' :: (Slot.argumentNames.name ++ [')']))) := by
    simp [constructorCall, name_argumentNames]
  have hat : Slot.at? (Slot.argumentNames.name ++ [')']) = some .argumentNames := by decide +kernel
  apply String.toList_inj.1
  rw [ArgumentWriter.expand, Callable.expand, hcode, String.toList_ofList]
  have hlead : '%' ∉ ['n', 'e', 'w', ' ', ':', ':'] := by decide
  have hopen : '%' ∉ ['('] := by decide
  have hclose : '%' ∉ [')'] := by decide
  rw [expand_plain hlead, expand_plain hname, expand_plain hopen,
    expand_slot hat (slotValue_names f), expand_rest hclose]
  simp

theorem expand_forwardCall (f : Callable) :
    writer.expand f (forwardCall f) = String.join
      [if returnsValue f then "return " else "", "self->", f.libraryName, "(", f.nameList,
        ");"] := by
  let lead := (if returnsValue f then "return " else "").toList
  have hlead : '%' ∉ lead := by
    simp only [lead]
    split <;> decide +kernel
  have hself : '%' ∉ ['s', 'e', 'l', 'f', '-', '>'] := by decide
  have hopen : '%' ∉ ['('] := by decide
  have hclose : '%' ∉ [')', ';'] := by decide
  have hcode : (forwardCall f).toList = lead ++ (['s', 'e', 'l', 'f', '-', '>'] ++ '%' ::
      (Slot.functionName.name ++ (['('] ++ '%' :: (Slot.argumentNames.name ++ [')', ';'])))) := by
    simp [forwardCall, name_argumentNames, name_functionName, lead]
  have hfunction : Slot.at? (Slot.functionName.name ++
      (['('] ++ '%' :: (Slot.argumentNames.name ++ [')', ';']))) = some .functionName := by
    decide +kernel
  have hnames : Slot.at? (Slot.argumentNames.name ++ [')', ';']) = some .argumentNames := by
    decide +kernel
  have hname : f.slotValue (writer.texts f) .functionName = some f.libraryName.toList := rfl
  apply String.toList_inj.1
  rw [ArgumentWriter.expand, Callable.expand, hcode, String.toList_ofList, expand_plain hlead,
    expand_plain hself, expand_slot hfunction hname,
    expand_plain hopen, expand_slot hnames (slotValue_names f), expand_rest hclose]
  simp [lead]

/-- The names that a call is made of have no line breaks. -/
def CallsInOneLine (f : Callable) : Prop :=
  '\n' ∉ f.libraryName.toList ∧ ∀ a ∈ f.kept, '\n' ∉ a.name.toList

theorem CallsInOneLine.nameList (h : CallsInOneLine f) : '\n' ∉ f.nameList.toList := by
  unfold Callable.nameList Text.commaList
  rw [String.toList_ofList]
  refine Text.not_mem_joinWith (by decide) ?_
  intro name hname
  simp only [List.map_map, List.mem_map, Function.comp_apply] at hname
  obtain ⟨a, ha, rfl⟩ := hname
  exact h.2 a ha

theorem forwarderBody_eq (h : CallsInOneLine f) :
    forwarderBody f = String.join ["    ", if returnsValue f then "return " else "", "self->",
      f.libraryName, "(", f.nameList, ");"] := by
  let middle := f.libraryName.toList ++ '(' :: (f.nameList.toList ++ [')'])
  have hmiddle : '\n' ∉ middle := by simp [middle, h.1, h.nameList]
  have hcall : (writer.expand f (forwardCall f)).toList =
      (if returnsValue f then ['r', 'e', 't', 'u', 'r', 'n', ' '] else [])
        ++ ['s', 'e', 'l', 'f', '-', '>'] ++ middle ++ [';'] := by
    rw [expand_forwardCall]
    split <;> simp [middle]
  -- the first character depends on whether the call returns something
  have hindent : Text.reindentText [' ', ' ', ' ', ' '] (writer.expand f (forwardCall f)).toList =
      [' ', ' ', ' ', ' '] ++ (writer.expand f (forwardCall f)).toList := by
    rw [hcall]
    split
    · exact Text.reindentText_line 'r' ';' rfl (by simp [hmiddle])
        (by decide) (by decide)
    · exact Text.reindentText_line 's' ';' rfl (by simp [hmiddle])
        (by decide) (by decide)
  apply String.toList_inj.1
  rw [forwarderBody, hindent, expand_forwardCall]
  simp

def makerText (c : ClassDecl) (position : Nat) (f : Callable) : String :=
  String.join ["::", c.qualifiedName, "* construct_", initName c, "_", position.repr, "(",
    f.parameterList, ")\n\x7b\n    return new ::", c.qualifiedName, "(", f.nameList, ");\n\x7d\n\n"]

def forwarderText (c : ClassDecl) (f : Callable) : String :=
  String.join [typeText {} f.owner f.result, " ", initName c, "_", f.name, "(::", c.qualifiedName,
    "* self", if f.kept = [] then "" else ", " ++ f.parameterList, ")\n\x7b\n    ",
    if returnsValue f then "return " else "", "self->", f.libraryName, "(", f.nameList,
    ");\n\x7d\n\n"]

def passingText (c : ClassDecl) (x : Content) : String :=
  String.join [licenseBlock x.license, openingBlock c x.header x.scope,
    String.join ((wrappedConstructors c).zipIdx 1 |>.map fun (f, i) => makerText c i f),
    sampleBlock c x.sample, String.join ((wrappedMethods c).map (forwarderText c)),
    injectedBlock x.injected, closingBlock c x.scope]

theorem makerBlock_eq (hname : '%' ∉ c.qualifiedName.toList) (position : Nat) :
    makerBlock c position f = makerText c position f := by
  apply String.toList_inj.1
  rw [makerBlock, makerText, expand_constructorCall hname, headArguments_eq]
  simp

theorem forwarderBlock_eq (h : CallsInOneLine f) : forwarderBlock c f = forwarderText c f := by
  apply String.toList_inj.1
  rw [forwarderBlock, forwarderText, forwarderBody_eq h, headArguments_eq]
  simp [parameterList_eq_empty_iff]

/-- Every maker and forwarder passes on the names of the arguments that its head declares: those
that are not removed, in their order, whatever percent signs the names hold. -/
theorem calls_pass_what_heads_declare {s : Session WrapperState}
    (htemplates : s.templates = wrapper.templates) (hname : '%' ∉ c.qualifiedName.toList)
    (hlines : ∀ f ∈ wrappedMethods c, CallsInOneLine f) {text : String}
    (h : (classText s c).run.value = .ok text) :
    ∃ x, Gives s c x ∧ text = passingText c x := by
  obtain ⟨x, hgives, rfl⟩ := content_of_classText htemplates h
  refine ⟨x, hgives, ?_⟩
  have hmakers : ((wrappedConstructors c).zipIdx 1).map (fun (f, i) => makerBlock c i f) =
      ((wrappedConstructors c).zipIdx 1).map fun (f, i) => makerText c i f :=
    List.map_congr_left fun p _ => makerBlock_eq hname p.2
  have hforwarders : (wrappedMethods c).map (forwarderBlock c) =
      (wrappedMethods c).map (forwarderText c) :=
    List.map_congr_left fun f hf => forwarderBlock_eq (hlines f hf)
  rw [fileText, passingText, hmakers, hforwarders]

def reelClass : ClassDecl :=
  let number : TypeUse := { entry := { handle := 2, kind := .builtin, name := "int" } }
  { handle := 3, name := "Reel", package := "craft"
    entry := { handle := 1, kind := .value, name := "Reel" }
    functions :=
      [{ handle := 4, name := "Reel", isConstructor := true
         arguments := [{ name := "old", type := number, removed := true }] },
        { handle := 5, name := "wind", wrappedName := "%ARGUMENTS", result := some number
          arguments := [{ name := "%2", type := number, default := "3" },
            { name := "old", type := number, index := 7, removed := true },
            { name := "%TYPE", type := number, index := 1 }] }] }

def reelSession : Session WrapperState :=
  { spoolSession with settings := {}, api := some { classes := [reelClass] } }

def reelContent : Content :=
  ⟨.str "", "reel.h", "craft_wrappers", some "::Reel(((int)0))", ""⟩

theorem reel_calls : '%' ∉ reelClass.qualifiedName.toList ∧
    (∀ f ∈ wrappedMethods reelClass, CallsInOneLine f) ∧
    ∃ x, Gives reelSession reelClass x ∧
      fileText reelClass reelContent = passingText reelClass x := by
  have hname : '%' ∉ reelClass.qualifiedName.toList := by decide +kernel
  have hlines : ∀ f ∈ wrappedMethods reelClass, CallsInOneLine f := by
    unfold CallsInOneLine
    decide +kernel
  have hgives : Gives reelSession reelClass reelContent :=
    ⟨rfl, by decide +kernel, by decide +kernel, by decide +kernel, by decide +kernel,
      by decide +kernel, by decide +kernel⟩
  exact ⟨hname, hlines,
    calls_pass_what_heads_declare rfl hname hlines (classText_of_gives rfl hgives)⟩

end Wrapper

end GlueCode
