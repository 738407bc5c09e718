import GlueCode.Proofs.WrapperParts
import Mathlib.Data.List.Basic
/-! # The text of a wrapper file

A wrapper file is a sequence of blocks: the license as a comment, the opening of the namespace, a
maker for each public constructor, the default instance, a forwarder for each public method, the
code that the settings inject, and the initializer of the class with the end of the namespace. Each
block is written out here on its own. The template of wrapper files gives just these texts one after
the other, whatever the class and its settings are. -/
namespace GlueCode

namespace Wrapper

def licenseBlock (license : Json) : String :=
  if license.holds then
    String.ofList (Text.commentOut ['/', '/'] license.display) ++ "\n\n"
  else ""

def openingBlock (c : ClassDecl) (header scope : String) : String :=
  String.join ["// Wrapper for ", c.fullName, "\n#include \"", header, "\"\n\nnamespace ", scope,
    " \x7b\n\n"]

/-- The function that calls a constructor; constructors are numbered by `position`. -/
def makerBlock (c : ClassDecl) (position : Nat) (f : Callable) : String :=
  String.join ["::", c.qualifiedName, "* construct_", initName c, "_", position.repr, "(",
    headArguments f, ")\n\x7b\n    return ", writer.expand f (constructorCall c), ";\n\x7d\n\n"]

def sampleBlock (c : ClassDecl) : Option String → String
  | some sample =>
    String.join ["inline auto default_instance_", initName c, "()\n\x7b\n    return ", sample,
      ";\n\x7d\n\n"]
  | none => String.join ["// ::", c.qualifiedName, " has no minimal constructor\n\n"]

def forwarderBody (f : Callable) : String :=
  String.ofList (Text.reindentText [' ', ' ', ' ', ' '] (writer.expand f (forwardCall f)).toList)

def forwarderBlock (c : ClassDecl) (f : Callable) : String :=
  String.join [typeText {} f.owner f.result, " ", initName c, "_", f.name, "(::", c.qualifiedName,
    "* self", if headArguments f = "" then "" else ", " ++ headArguments f, ")\n\x7b\n",
    forwarderBody f, "\n\x7d\n\n"]

def injectedBlock (code : String) : String := if code = "" then "" else code ++ "\n\n"

def closingBlock (c : ClassDecl) (scope : String) : String :=
  String.join ["void init_", initName c, "()\n\x7b\n\x7d\n\n\x7d // namespace ", scope, "\n"]

/-- What the settings and the session give for the wrapper of a class. -/
structure Content where
  license : Json
  header : String
  scope : String
  sample : Option String
  injected : String

def fileText (c : ClassDecl) (x : Content) : String :=
  String.join [licenseBlock x.license, openingBlock c x.header x.scope,
    String.join ((wrappedConstructors c).zipIdx 1 |>.map fun (f, i) => makerBlock c i f),
    sampleBlock c x.sample, String.join ((wrappedMethods c).map (forwarderBlock c)),
    injectedBlock x.injected, closingBlock c x.scope]

theorem closing_fileText (c : ClassDecl) (x : Content) :
    ∃ before, fileText c x = before ++ closingBlock c x.scope := by
  refine ⟨String.join [licenseBlock x.license, openingBlock c x.header x.scope,
    String.join ((wrappedConstructors c).zipIdx 1 |>.map fun (f, i) => makerBlock c i f),
    sampleBlock c x.sample, String.join ((wrappedMethods c).map (forwarderBlock c)),
    injectedBlock x.injected], ?_⟩
  simp [fileText, String.append_assoc]

def fileFields (c : ClassDecl) (x : Content) : Json.Fields :=
  [("license_comment", x.license), ("full_name", .str c.fullName),
    ("qualified_name", .str c.qualifiedName), ("init_name", .str (initName c)),
    ("header", .str x.header), ("namespace", .str x.scope),
    ("constructors", .arr ((wrappedConstructors c).map (constructorFields c))),
    ("default_instance", (x.sample.map Json.str).getD .null),
    ("methods", .arr ((wrappedMethods c).map methodFields)), ("injected_code", .str x.injected)]

section

open Template

structure Shown (context : Context) (c : ClassDecl) (x : Content) : Prop where
  license : context.fields.get? "license_comment" = some x.license
  fullName : context.fields.get? "full_name" = some (.str c.fullName)
  qualifiedName : context.fields.get? "qualified_name" = some (.str c.qualifiedName)
  initName : context.fields.get? "init_name" = some (.str (initName c))
  header : context.fields.get? "header" = some (.str x.header)
  scope : context.fields.get? "namespace" = some (.str x.scope)
  constructors : context.fields.get? "constructors" =
    some (.arr ((wrappedConstructors c).map (constructorFields c)))
  sample : context.fields.get? "default_instance" = some ((x.sample.map Json.str).getD .null)
  methods : context.fields.get? "methods" = some (.arr ((wrappedMethods c).map methodFields))
  injected : context.fields.get? "injected_code" = some (.str x.injected)

theorem shown_fileFields (name : Option String) (c : ClassDecl) (x : Content) :
    Shown ⟨name, fileFields c x⟩ c x := by
  constructor <;> simp [fileFields, Ledger.get?]

variable {context : Context} {c : ClassDecl} {x : Content}

theorem renders_license {license : Json}
    (h : context.fields.get? "license_comment" = some license) :
    Renders context [] licenseParts (licenseBlock license).toList := by
  have heval : (given "license_comment").eval context [] = .ok (.data license) := eval_given h
  unfold licenseBlock
  by_cases hholds : license.holds = true
  · refine .of_eq (.taken heval hholds (.print (eval_comment heval) (.text _ renders_nil))
      renders_nil) ?_
    simp [hholds, defaultStyle]
  · refine .of_eq (.otherwise heval (by simpa using hholds) renders_nil renders_nil) ?_
    simp [hholds]

theorem Shown.renders_opening (h : Shown context c x) :
    Renders context [] openingParts (openingBlock c x.header x.scope).toList := by
  refine .of_eq (.text _ (.print (eval_given h.fullName) (.text _ (.print (eval_given h.header)
    (.text _ (.print (eval_given h.scope) (.text _ renders_nil))))))) ?_
  simp [openingBlock]

theorem Shown.renders_makers (h : Shown context c x) :
    Renders context [] [.loop "ctor" (given "constructors") makerParts []]
      (String.join ((wrappedConstructors c).zipIdx 1 |>.map fun (f, i) =>
        makerBlock c i f)).toList := by
  refine .of_eq (renders_loop (constructorFields c) (fun i f => (makerBlock c i f).toList)
    (eval_given h.constructors) fun pass f _ hitem => ?_) ?_
  · refine .of_eq (.text _ (.print (eval_given h.qualifiedName) (.text _
      (.print (eval_given h.initName) (.text _ (.print eval_position (.text _
        (.print (eval_itemField hitem rfl rfl) (.text _
          (.print (eval_itemField hitem rfl rfl) (.text _ renders_nil))))))))))) ?_
    simp [makerBlock]
  · simp [List.flatMap_map]

theorem Shown.renders_sample (h : Shown context c x) (hsample : x.sample ≠ some "") :
    Renders context [] sampleParts (sampleBlock c x.sample).toList := by
  have hgiven := h.sample
  cases hx : x.sample with
  | none =>
    rw [hx] at hgiven
    refine .of_eq (.otherwise (eval_given hgiven) rfl (.text _
      (.print (eval_given h.qualifiedName) (.text _ renders_nil))) (.text _ renders_nil)) ?_
    simp [sampleBlock]
  | some text =>
    rw [hx] at hgiven hsample
    have hholds : (Value.data (.str text)).holds = true := by simpa [Json.holds] using hsample
    refine .of_eq (.taken (eval_given hgiven) hholds (.text _ (.print (eval_given h.initName)
      (.text _ (.print (eval_given hgiven) (.text _ renders_nil))))) (.text _ renders_nil)) ?_
    simp [sampleBlock]

theorem Shown.renders_forwarders (h : Shown context c x) :
    Renders context [] [.loop "method" (given "methods") forwarderParts []]
      (String.join ((wrappedMethods c).map (forwarderBlock c))).toList := by
  refine .of_eq (renders_each methodFields (fun f => (forwarderBlock c f).toList)
    (eval_given h.methods) fun pass f _ hitem => ?_) (by simp [List.flatMap_map])
  have harguments : (ofItem "arguments").eval context [pass] =
      .ok (.data (.str (headArguments f))) := eval_itemField hitem rfl rfl
  have hmore : Renders context [pass] (if (Value.data (.str (headArguments f))).holds
      then [.text ", ".toList, .print (ofItem "arguments")] else [])
      (if headArguments f = "" then "" else ", " ++ headArguments f).toList := by
    by_cases hempty : headArguments f = ""
    · simpa [hempty, Json.holds] using renders_nil
    · rw [if_neg hempty, if_pos (by simpa [Json.holds] using hempty)]
      exact .of_eq (.text _ (.print harguments renders_nil)) (by simp)
  refine .of_eq (.print (eval_itemField hitem rfl rfl) (.text _ (.print (eval_given h.initName)
    (.text _ (.print (eval_itemField hitem rfl rfl) (.text _ (.print (eval_given h.qualifiedName)
      (.text _ (.branch harguments hmore
        (.text _ (.print (eval_indent (eval_itemField hitem rfl rfl))
          (.text _ renders_nil)))))))))))) ?_
  simp [forwarderBlock, forwarderBody, defaultWidth, List.replicate]

theorem Shown.renders_injected (h : Shown context c x) :
    Renders context [] injectedParts (injectedBlock x.injected).toList := by
  have heval : (given "injected_code").eval context [] = .ok (.data (.str x.injected)) :=
    eval_given h.injected
  unfold injectedBlock
  by_cases hempty : x.injected = ""
  · rw [if_pos hempty]
    exact .otherwise heval (by simp [hempty, Json.holds]) renders_nil renders_nil
  · rw [if_neg hempty]
    refine .of_eq (.taken heval (by simpa [Json.holds] using hempty) (.print heval
      (.text _ renders_nil)) renders_nil) ?_
    simp

theorem Shown.renders_closing (h : Shown context c x) :
    Renders context [] closingParts (closingBlock c x.scope).toList := by
  refine .of_eq (.text _ (.print (eval_given h.initName) (.text _ (.print (eval_given h.scope)
    (.text _ renders_nil))))) ?_
  simp [closingBlock]

theorem Shown.renders_file (h : Shown context c x) (hsample : x.sample ≠ some "") :
    Renders context [] fileParts (fileText c x).toList := by
  refine .of_eq ((((((renders_license h.license).append h.renders_opening).append
    h.renders_makers).append (h.renders_sample hsample)).append h.renders_forwarders).append
      h.renders_injected |>.append h.renders_closing) ?_
  simp [fileText]

end

end Wrapper

theorem ClassDecl.sampleWith_value {c : ClassDecl} {ofType : TypeUse → Traced (Option Sample)}
    {sample : Sample} (h : (c.sampleWith ofType).value = some sample) :
    ∃ values, sample = .build c.qualifiedName values := by
  have hcall : ∀ {values : Option (List Sample)}, c.call? values = some sample →
      ∃ values, sample = .build c.qualifiedName values := by
    intro values hvalues
    unfold ClassDecl.call? at hvalues
    split at hvalues
    · next v rest => exact ⟨v :: rest, (Option.some.inj hvalues).symm⟩
    · cases hvalues
  simp only [ClassDecl.sampleWith] at h
  split at h
  · cases h
  split at h
  · exact ⟨[], (Option.some.inj h).symm⟩
  rw [Traced.value_bind] at h
  split at h
  · next s hsimple =>
    rw [Traced.value_firstSome] at hsimple
    obtain rfl : s = sample := Option.some.inj h
    obtain ⟨f, -, hf⟩ := List.exists_of_findSome?_eq_some hsimple
    exact hcall hf
  · rw [Traced.value_bind] at h
    split at h
    · next s hall =>
      rw [Traced.value_firstSome] at hall
      obtain rfl : s = sample := Option.some.inj h
      obtain ⟨f, -, hf⟩ := List.exists_of_findSome?_eq_some hall
      exact hcall hf
    · cases h

theorem Api.sampleClassAt_text {api : Api} {depth : Nat} {busy : List ClassDecl} {c : ClassDecl}
    {sample : Sample} (h : (api.sampleClassAt depth busy c).value = some sample) :
    sample.text ≠ "" := by
  have hbuild : ∀ name values, (Sample.build name values).text ≠ "" := by
    intro name values htext
    simp [Sample.text, Sample.chars] at htext
  cases depth with
  | zero => cases h
  | succ depth =>
    rw [Api.sampleClassAt] at h
    split at h
    · next text hdeclared =>
      obtain rfl : Sample.declared text = sample := Option.some.inj h
      have hfilled := (Option.filter_eq_some_iff.1 hdeclared).2
      simpa [Sample.text, Sample.chars] using hfilled
    · split at h
      · cases h
      · obtain ⟨values, rfl⟩ := ClassDecl.sampleWith_value h
        exact hbuild _ _

theorem Session.sample_class_ne {σ : Type} {s : Session σ} {c : ClassDecl}
    {found : Option String} (h : (s.sample (.cls c)).run.value = .ok found) : found ≠ some "" := by
  simp only [Session.sample, Attempt.value_bind_ok, Attempt.value_ofExcept,
    Attempt.value_ofTraced_ok, Attempt.value_pure, Except.ok.injEq] at h
  obtain ⟨api, -, sample?, ⟨-, hvalue⟩, rfl⟩ := h
  intro hempty
  obtain ⟨sample, rfl, htext⟩ := Option.map_eq_some_iff.1 hempty
  exact Api.sampleClassAt_text hvalue htext

namespace Wrapper

/-- Everything that the wrapper of a class shows can be had, and is this. -/
structure Gives (s : Session WrapperState) (c : ClassDecl) (x : Content) : Prop where
  license : x.license = s.settings.licenseComment
  header : headerOf s.state.headerPattern c = .ok x.header
  scope : scopeName s = .ok x.scope
  constructors : requireTexts (wrappedConstructors c) (fun _ => constructorCall c) = .ok ()
  sample : (s.sample (.cls c)).run.value = .ok x.sample
  methods : requireTexts (wrappedMethods c) forwardCall = .ok ()
  injected : injectedCode s.settings c = .ok x.injected

variable {s : Session WrapperState} {c : ClassDecl}

theorem classFields_ok_iff {fields : Json.Fields} :
    (classFields s c).run.value = .ok fields ↔ ∃ x, Gives s c x ∧ fields = fileFields c x := by
  simp only [classFields, Attempt.value_bind_ok, Attempt.value_ofExcept, Attempt.value_pure,
    Except.ok.injEq]
  constructor
  · rintro ⟨header, hheader, scope, hscope, ⟨⟩, hconstructors, sample, hsample, ⟨⟩, hmethods,
      injected, hinjected, rfl⟩
    exact ⟨⟨s.settings.licenseComment, header, scope, sample, injected⟩,
      ⟨rfl, hheader, hscope, hconstructors, hsample, hmethods, hinjected⟩, rfl⟩
  · rintro ⟨x, h, rfl⟩
    exact ⟨_, h.header, _, h.scope, _, h.constructors, _, h.sample, _, h.methods, _, h.injected,
      by rw [fileFields, h.license]⟩

theorem render_fileFields (htemplates : s.templates = wrapper.templates) {x : Content}
    (hsample : x.sample ≠ some "") :
    s.render classTemplateName (fileFields c x) = .ok (fileText c x) := by
  have hparts := (shown_fileFields (some classTemplateName) c x).renders_file hsample
  have hself : Ledger.has Template.selfName (fileFields c x) = false := rfl
  have hrender := Template.render_of_renders source_classTemplate read_classTemplate hself hparts
  rw [Session.render, htemplates, hrender, String.ofList_toList]

theorem content_of_classText (htemplates : s.templates = wrapper.templates) {text : String}
    (h : (classText s c).run.value = .ok text) : ∃ x, Gives s c x ∧ text = fileText c x := by
  simp only [classText, Attempt.value_bind_ok, Attempt.value_ofExcept, classFields_ok_iff] at h
  obtain ⟨fields, ⟨x, hgives, rfl⟩, hrender⟩ := h
  rw [render_fileFields htemplates (Session.sample_class_ne hgives.sample)] at hrender
  exact ⟨x, hgives, (Except.ok.inj hrender).symm⟩

theorem classText_of_gives (htemplates : s.templates = wrapper.templates) {x : Content}
    (h : Gives s c x) : (classText s c).run.value = .ok (fileText c x) := by
  simp only [classText, Attempt.value_bind_ok, Attempt.value_ofExcept, classFields_ok_iff]
  exact ⟨_, ⟨x, h, rfl⟩, render_fileFields htemplates (Session.sample_class_ne h.sample)⟩

/-- The text of a class is made just when everything that it shows can be had, and then it is the
blocks of a wrapper file, one for each declaration, in their order. -/
theorem class_text_iff (htemplates : s.templates = wrapper.templates) {text : String} :
    (classText s c).run.value = .ok text ↔ ∃ x, Gives s c x ∧ text = fileText c x := by
  constructor
  · exact content_of_classText htemplates
  · rintro ⟨x, h, rfl⟩
    exact classText_of_gives htemplates h

def spoolClass : ClassDecl :=
  let number : TypeUse := { entry := { handle := 2, kind := .builtin, name := "int" } }
  { handle := 3, name := "Spool", package := "craft"
    entry := { handle := 1, kind := .value, name := "Spool" }
    functions :=
      [{ handle := 4, name := "Spool", isConstructor := true
         arguments := [{ name := "size", type := number }] },
        { handle := 5, name := "Spool", isConstructor := true, isPrivate := true },
        { handle := 6, name := "turn", arguments := [{ name := "by", type := number }] },
        { handle := 7, name := "Spool", isConstructor := true
          arguments := [{ name := "size", type := number }, { name := "rest", type := number }] },
        { handle := 8, name := "left", result := some number }] }

def spoolSession : Session WrapperState :=
  { settings :=
      { licenseComment := .str "free"
        custom := .dictionary [(.text "inject_code", .obj [("Spool", .str "  int spare;")])] }
    api := some { classes := [spoolClass] }
    foundPackage := "craft"
    templates := wrapper.templates
    state := {} }

theorem spool_text : (classText spoolSession spoolClass).run.value = .ok (String.join
    ["// free\n\n// Wrapper for craft.Spool\n#include \"spool.h\"\n\n",
      "namespace craft_wrappers \x7b\n\n",
      "::Spool* construct_Spool_1(int size)\n\x7b\n    return new ::Spool(size);\n\x7d\n\n",
      "::Spool* construct_Spool_2(int size, int rest)\n\x7b\n",
      "    return new ::Spool(size, rest);\n\x7d\n\n",
      "inline auto default_instance_Spool()\n\x7b\n    return ::Spool(((int)0));\n\x7d\n\n",
      "void Spool_turn(::Spool* self, int by)\n\x7b\n    self->turn(by);\n\x7d\n\n",
      "int Spool_left(::Spool* self)\n\x7b\n    return self->left();\n\x7d\n\n",
      "int spare;\n\nvoid init_Spool()\n\x7b\n\x7d\n\n\x7d // namespace craft_wrappers\n"]) := by
  refine (class_text_iff rfl).2 ⟨⟨.str "free", "spool.h", "craft_wrappers",
    some "::Spool(((int)0))", "int spare;"⟩, ?_, by decide +kernel⟩
  exact ⟨rfl, by decide +kernel, by decide +kernel, by decide +kernel, by decide +kernel,
    by decide +kernel, by decide +kernel⟩

end Wrapper

end GlueCode
