import GlueCode.Generator.Basic
import GlueCode.Text.LowerCase
import GlueCode.Text.Reindent
import GlueCode.Wrapper.Templates
/-! # Wrappers

The backend that writes wrapper files. A class with functions gets a file of its own, with a
forwarder for each public constructor and method, a default instance if it has a sample, and the
code that the settings inject for it. A run ends with the module index, which calls the initializer
of every class produced since the setup. A pattern for the header's name stays in force until a
setup gives another one.
-/
namespace GlueCode

structure WrapperState where
  headerPattern : String := "{name}.h"
deriving DecidableEq, Repr, Inhabited

namespace Wrapper

variable {σ : Type}

def patternOption : String := "header-pattern"

def fallbackModule : String := "bindings"

def patternHelp : String :=
  "Header included by each wrapper, {name} is the lower-case class name (default: {name}.h)"

def orFallback (name : String) : String := if name.isEmpty then fallbackModule else name

def scopeName (s : Session σ) : Except Failure String := do
  return Text.replaceDots '_' (orFallback (← s.packageText)) ++ "_wrappers"

def initName (c : ClassDecl) : String := Text.replaceDots '_' c.localName

def fileName? (c : ClassDecl) : Option String :=
  if c.functions.isEmpty then none else some (Text.lower (initName c) ++ "_wrapper.cpp")

def writer : ArgumentWriter := {}

def headArguments (f : Callable) : String :=
  f.plainDeclarations ArgumentWriter.declarationOptions

def constructorCall (c : ClassDecl) : String :=
  "new ::" ++ c.qualifiedName ++ "(%ARGUMENT_NAMES)"

def constructorFields (c : ClassDecl) (f : Callable) : Json :=
  .obj [("arguments", .str (headArguments f)),
    ("call", .str (writer.expand f (constructorCall c)))]

/-- Whether a forwarder returns what the method does: it has a result whose entry is not void. -/
def returnsValue (f : Callable) : Bool :=
  match f.result with
  | some t => !t.entry.isVoid
  | none => false

def forwardCall (f : Callable) : String :=
  (if returnsValue f then "return " else "") ++ "self->%FUNCTION_NAME(%ARGUMENT_NAMES);"

def methodFields (f : Callable) : Json :=
  .obj [("name", .str f.name), ("return_type", .str (typeText {} f.owner f.result)),
    ("arguments", .str (headArguments f)), ("body", .str (writer.expand f (forwardCall f)))]

def requireTexts (fs : List Callable) (code : Callable → String) : Except Failure Unit :=
  if fs.all fun f =>
      f.isDeclarable ArgumentWriter.declarationOptions && f.canExpand (code f) then .ok ()
  else .error .unknownType

def wrappedConstructors (c : ClassDecl) : List Callable := c.constructors.filter (!·.isPrivate)

def wrappedMethods (c : ClassDecl) : List Callable :=
  c.functions.filter fun f => !f.isConstructor && !f.isPrivate

/-- The code that the settings inject into a class, under its qualified name or else its name. -/
def injectedCode (settings : Settings) (c : ClassDecl) : Except Failure String := do
  let custom ← match settings.custom with
    | .dictionary entries => pure entries
    | .other _ => throw .snippetNotText
  let snippets ← fieldsOf ((Ledger.get? (.text "inject_code") custom).getD (.obj []))
  let snippet (name : String) : Json := (Ledger.get? name snippets).getD .null
  let code := if (snippet c.qualifiedName).holds then snippet c.qualifiedName else snippet c.name
  if !code.holds then return ""
  match code with
  | .str text => return String.ofList (Text.reindentText [] text.toList)
  | _ => throw .snippetNotText
where
  fieldsOf : Json → Except Failure Json.Fields
    | .obj fields => .ok fields
    | _ => .error .snippetNotText

def headerOf (pattern : String) (c : ClassDecl) : Except Failure String :=
  match NamePattern.fill pattern (Text.lower c.name) with
  | .ok header => .ok header
  | .error e => .error (.header e)

def classFields (s : Session WrapperState) (c : ClassDecl) : Attempt Json.Fields := do
  let header ← Attempt.ofExcept (headerOf s.state.headerPattern c)
  let scope ← Attempt.ofExcept (scopeName s)
  Attempt.ofExcept (requireTexts (wrappedConstructors c) fun _ => constructorCall c)
  let sample ← s.sample (.cls c)
  Attempt.ofExcept (requireTexts (wrappedMethods c) forwardCall)
  let injected ← Attempt.ofExcept (injectedCode s.settings c)
  return [("license_comment", s.settings.licenseComment), ("full_name", .str c.fullName),
    ("qualified_name", .str c.qualifiedName), ("init_name", .str (initName c)),
    ("header", .str header), ("namespace", .str scope),
    ("constructors", .arr ((wrappedConstructors c).map (constructorFields c))),
    ("default_instance", (sample.map Json.str).getD .null),
    ("methods", .arr ((wrappedMethods c).map methodFields)), ("injected_code", .str injected)]

def classText (s : Session WrapperState) (c : ClassDecl) : Attempt String := do
  Attempt.ofExcept (s.render classTemplateName (← classFields s c))

/-- The names in the module index: those of the produced classes of the interface, in its order. -/
def indexNames (g : Generator σ) (api : Api) : List String :=
  (api.classes.filter fun c => g.produced.contains c).map initName

theorem indexNames_congr {g other : Generator σ} (h : ∀ c, c ∈ other.produced ↔ c ∈ g.produced)
    (api : Api) : indexNames other api = indexNames g api := by
  have hproduced : (fun c => other.produced.contains c) = fun c => g.produced.contains c := by
    funext c
    rw [Bool.eq_iff_iff, List.contains_iff_mem, List.contains_iff_mem]
    exact h c
  rw [indexNames, indexNames, hproduced]

def indexFile (s : Session σ) (moduleName : String) : Except Failure Path := do
  let directory ← s.outputDirectory
  let inner ← s.subDirectory (← s.packageText)
  return directory / Path.ofString inner /
    Path.ofString (Text.lower moduleName ++ "_module_wrapper.cpp")

def indexText (s : Session σ) (moduleName : String) (names : List String) :
    Except Failure String := do
  let scope ← scopeName s
  s.render indexTemplateName [("license_comment", s.settings.licenseComment),
    ("package", s.package), ("module", .str moduleName), ("namespace", .str scope),
    ("classes", .arr (names.map Json.str))]

def finish : Step WrapperState Unit := do
  let g ← Step.generator
  let names := indexNames g (← Step.ofExcept g.requireApi)
  if names.isEmpty then Step.note (info "No classes generated, skipping module index")
  else
    let moduleName := orFallback (← Step.ofExcept g.moduleName)
    let path ← Step.ofExcept (indexFile g.toSession moduleName)
    let text ← Step.ofExcept (indexText g.toSession moduleName names)
    if ← Step.close { path, text } then Step.note (info ("Wrote module index " ++ path.text))

end Wrapper

def wrapper : Backend WrapperState where
  initial := {}
  templates := .fixed Wrapper.templates
  options := [(Wrapper.patternOption, Wrapper.patternHelp)]
  writer := Wrapper.writer
  setup args state :=
    (⟨(args.get? Wrapper.patternOption).getD state.headerPattern⟩, true)
  fileName? := Wrapper.fileName?
  classText := Wrapper.classText
  finish := Wrapper.finish

end GlueCode
