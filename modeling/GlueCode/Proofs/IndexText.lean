import GlueCode.Proofs.WrapperText
/-! # The text of the module index

The index declares the initializer of every class that it lists, and calls each of them, in the same
order, from the initializer of the module. -/
namespace GlueCode

namespace Wrapper

def scopeOf (package : String) : String := Text.replaceDots '_' (orFallback package) ++ "_wrappers"

def initDeclaration (name : String) : String := String.join ["void init_", name, "();\n"]

def initCall (name : String) : String := String.join ["    init_", name, "();\n"]

def indexFileText (license : Json) (package moduleName : String) (names : List String) : String :=
  String.join [licenseBlock license, "// Module index for ", package, "\n\nnamespace ",
    scopeOf package, " \x7b\n\n", String.join (names.map initDeclaration), "\nvoid init_",
    moduleName, "()\n\x7b\n", String.join (names.map initCall), "\x7d\n\n\x7d // namespace ",
    scopeOf package, "\n"]

def indexFields (license : Json) (package moduleName : String) (names : List String) :
    Json.Fields :=
  [("license_comment", license), ("package", .str package), ("module", .str moduleName),
    ("namespace", .str (scopeOf package)), ("classes", .arr (names.map Json.str))]

section

open Template

variable {template : Option String} {license : Json} {package moduleName : String}
  {names : List String}

theorem renders_names {context : Context} {parts : List (Template.Part Reference)} (text : String → String)
    (hgiven : context.fields.get? "classes" = some (.arr (names.map Json.str)))
    (hbody : ∀ (pass : Loop) (n : String), pass.item = .data (.str n) →
      Renders context [pass] parts (text n).toList) :
    Renders context [] [.loop "name" (given "classes") parts []]
      (String.join (names.map text)).toList := by
  refine .of_eq (renders_each Json.str (fun n => (text n).toList) (eval_given hgiven)
    fun pass n _ hitem => hbody pass n hitem) ?_
  simp [List.flatMap_map]

theorem renders_index :
    Renders ⟨template, indexFields license package moduleName names⟩ [] indexParts
      (indexFileText license package moduleName names).toList := by
  let context : Context := ⟨template, indexFields license package moduleName names⟩
  have hpackage : context.fields.get? "package" = some (.str package) := rfl
  have hmodule : context.fields.get? "module" = some (.str moduleName) := rfl
  have hscope : context.fields.get? "namespace" = some (.str (scopeOf package)) := rfl
  have hopening : Renders context [] indexOpeningParts _ :=
    .text _ (.print (eval_given hpackage) (.text _ (.print (eval_given hscope)
      (.text _ renders_nil))))
  have hdeclarations : Renders context [] [.loop "name" (given "classes") declarationParts []]
      (String.join (names.map initDeclaration)).toList :=
    renders_names initDeclaration rfl fun pass n hitem =>
      .of_eq (.text _ (.print (eval_item hitem) (.text _ renders_nil))) (by simp [initDeclaration])
  have hhead : Renders context [] indexHeadParts _ :=
    .text _ (.print (eval_given hmodule) (.text _ renders_nil))
  have hcalls : Renders context [] [.loop "name" (given "classes") initCallParts []]
      (String.join (names.map initCall)).toList :=
    renders_names initCall rfl fun pass n hitem =>
      .of_eq (.text _ (.print (eval_item hitem) (.text _ renders_nil))) (by simp [initCall])
  have hclosing : Renders context [] indexClosingParts _ :=
    .text _ (.print (eval_given hscope) (.text _ renders_nil))
  refine .of_eq (((((renders_license rfl).append hopening).append hdeclarations).append
    hhead).append hcalls |>.append hclosing) ?_
  simp [indexFileText]

end

variable {σ : Type} {s : Session σ}

theorem packageText_ok_iff {package : String} :
    s.packageText = .ok package ↔ s.package = .str package := by
  unfold Session.packageText
  cases s.package <;> simp

theorem scopeName_eq (s : Session σ) : scopeName s = s.packageText.map scopeOf := by
  unfold scopeName
  cases s.packageText <;> rfl

theorem indexText_eq (htemplates : s.templates = wrapper.templates) (moduleName : String)
    (names : List String) :
    indexText s moduleName names = s.packageText.map fun package =>
      indexFileText s.settings.licenseComment package moduleName names := by
  unfold indexText
  rw [scopeName_eq]
  cases hpackage : s.packageText with
  | error e => rfl
  | ok package =>
    have hself : Ledger.has Template.selfName
        (indexFields s.settings.licenseComment package moduleName names) = false := rfl
    have hrender := Template.render_of_renders source_indexTemplate read_indexTemplate hself
      renders_index
    rw [packageText_ok_iff.1 hpackage]
    show s.render indexTemplateName (indexFields s.settings.licenseComment package moduleName names)
      = .ok _
    rw [Session.render, htemplates, hrender, String.ofList_toList]

end Wrapper

end GlueCode
