import GlueCode.Proofs.Rendering
import GlueCode.Wrapper.Basic
/-! # The templates of wrappers, part by part

What the two templates of the wrapper backend are read as: the parts of a wrapper file, in the
blocks in which they are rendered, and those of the module index. -/
namespace GlueCode

namespace Wrapper

open Template

def given (name : String) : Expr Reference := .name (.given name)

def ofItem (key : String) : Expr Reference := .field (.name (.item 0)) key

def licenseParts : List (Template.Part Reference) :=
  [.branch (given "license_comment")
    [.print (.filtered (given "license_comment") .comment [] []), .text "\n\n".toList] []]

def openingParts : List (Template.Part Reference) :=
  [.text "// Wrapper for ".toList, .print (given "full_name"), .text "\n#include \"".toList,
    .print (given "header"), .text "\"\n\nnamespace ".toList, .print (given "namespace"),
    .text " \x7b\n\n".toList]

def makerParts : List (Template.Part Reference) :=
  [.text "::".toList, .print (given "qualified_name"), .text "* construct_".toList,
    .print (given "init_name"), .text "_".toList,
    .print (.field (.name (.counter 0)) "index"), .text "(".toList, .print (ofItem "arguments"),
    .text ")\n\x7b\n    return ".toList, .print (ofItem "call"), .text ";\n\x7d\n\n".toList]

def sampleParts : List (Template.Part Reference) :=
  [.branch (given "default_instance")
    [.text "inline auto default_instance_".toList, .print (given "init_name"),
      .text "()\n\x7b\n    return ".toList, .print (given "default_instance"),
      .text ";\n\x7d\n".toList]
    [.text "// ::".toList, .print (given "qualified_name"),
      .text " has no minimal constructor\n".toList],
    .text "\n".toList]

def forwarderParts : List (Template.Part Reference) :=
  [.print (ofItem "return_type"), .text " ".toList, .print (given "init_name"), .text "_".toList,
    .print (ofItem "name"), .text "(::".toList, .print (given "qualified_name"),
    .text "* self".toList,
    .branch (ofItem "arguments") [.text ", ".toList, .print (ofItem "arguments")] [],
    .text ")\n\x7b\n".toList, .print (.filtered (ofItem "body") .indent [] []),
    .text "\n\x7d\n\n".toList]

def injectedParts : List (Template.Part Reference) :=
  [.branch (given "injected_code") [.print (given "injected_code"), .text "\n\n".toList] []]

def closingParts : List (Template.Part Reference) :=
  [.text "void init_".toList, .print (given "init_name"),
    .text "()\n\x7b\n\x7d\n\n\x7d // namespace ".toList, .print (given "namespace"),
    .text "\n".toList]

def fileParts : List (Template.Part Reference) :=
  licenseParts ++ openingParts ++ [.loop "ctor" (given "constructors") makerParts []]
    ++ sampleParts ++ [.loop "method" (given "methods") forwarderParts []] ++ injectedParts
    ++ closingParts

def indexOpeningParts : List (Template.Part Reference) :=
  [.text "// Module index for ".toList, .print (given "package"), .text "\n\nnamespace ".toList,
    .print (given "namespace"), .text " \x7b\n\n".toList]

def declarationParts : List (Template.Part Reference) :=
  [.text "void init_".toList, .print (.name (.item 0)), .text "();\n".toList]

def indexHeadParts : List (Template.Part Reference) :=
  [.text "\nvoid init_".toList, .print (given "module"), .text "()\n\x7b\n".toList]

def initCallParts : List (Template.Part Reference) :=
  [.text "    init_".toList, .print (.name (.item 0)), .text "();\n".toList]

def indexClosingParts : List (Template.Part Reference) :=
  [.text "\x7d\n\n\x7d // namespace ".toList, .print (given "namespace"), .text "\n".toList]

def indexParts : List (Template.Part Reference) :=
  licenseParts ++ indexOpeningParts ++ [.loop "name" (given "classes") declarationParts []]
    ++ indexHeadParts ++ [.loop "name" (given "classes") initCallParts []] ++ indexClosingParts

def templateChars (ls : List String) : List Char := Text.unlines (ls.map String.toList)

theorem read_classTemplate :
    Template.read (templateChars classTemplateLines) = .ok ⟨fileParts⟩ := by
  refine read_of_readsAs ?_
  simp only [templateChars, classTemplateLines, List.map_cons, List.map_nil, String.toList_append,
    fileParts, licenseParts, openingParts, makerParts, sampleParts, forwarderParts, injectedParts,
    closingParts, String.reduceToList]
  decide +kernel

theorem read_indexTemplate :
    Template.read (templateChars indexTemplateLines) = .ok ⟨indexParts⟩ := by
  refine read_of_readsAs ?_
  simp only [templateChars, indexTemplateLines, List.map_cons, List.map_nil, indexParts,
    licenseParts, indexOpeningParts, declarationParts, indexHeadParts, initCallParts,
    indexClosingParts, String.reduceToList]
  decide +kernel

theorem source_fixed {texts : Ledger String String} {name text : String}
    (hpath : (pathOfName? name).map Path.text = some name) (htext : texts.get? name = some text) :
    (Collection.fixed texts).source name = .ok text := by
  obtain ⟨path, hpath, hname⟩ := Option.map_eq_some_iff.1 hpath
  simp only [Collection.source, hpath, Option.bind_some, hname, htext]

theorem source_classTemplate : wrapper.templates.source classTemplateName =
    .ok (String.ofList (templateChars classTemplateLines)) :=
  source_fixed (by decide +kernel) rfl

theorem source_indexTemplate : wrapper.templates.source indexTemplateName =
    .ok (String.ofList (templateChars indexTemplateLines)) :=
  source_fixed (by decide +kernel) rfl

end Wrapper

end GlueCode
