import GlueCode.Ledger
import GlueCode.Text.Lines
/-! # Templates of wrappers

The text of a wrapper file and of the module index. Every line is ended.
-/
namespace GlueCode.Wrapper

def classTemplateName : String := "class_wrapper.cpp.j2"

def indexTemplateName : String := "module_index.cpp.j2"

def classTemplateLines : List String :=
  [ "{% if license_comment %}",
    "{{ license_comment | comment }}",
    "",
    "{% endif %}",
    "// Wrapper for {{ full_name }}",
    "#include \"{{ header }}\"",
    "",
    "namespace {{ namespace }} \x7b",
    "",
    "{% for ctor in constructors %}",
    "::{{ qualified_name }}* construct_{{ init_name }}_{{ loop.index }}({{ ctor.arguments }})",
    "\x7b",
    "    return {{ ctor.call }};",
    "\x7d",
    "",
    "{% endfor %}",
    "{% if default_instance %}",
    "inline auto default_instance_{{ init_name }}()",
    "\x7b",
    "    return {{ default_instance }};",
    "\x7d",
    "{% else %}",
    "// ::{{ qualified_name }} has no minimal constructor",
    "{% endif %}",
    "",
    "{% for method in methods %}",
    "{{ method.return_type }} {{ init_name }}_{{ method.name }}(::{{ qualified_name }}* self" ++
      "{% if method.arguments %}, {{ method.arguments }}{% endif %})",
    "\x7b",
    "{{ method.body | indent_code }}",
    "\x7d",
    "",
    "{% endfor %}",
    "{% if injected_code %}",
    "{{ injected_code }}",
    "",
    "{% endif %}",
    "void init_{{ init_name }}()",
    "\x7b",
    "\x7d",
    "",
    "\x7d // namespace {{ namespace }}",
    "" ]

def indexTemplateLines : List String :=
  [ "{% if license_comment %}",
    "{{ license_comment | comment }}",
    "",
    "{% endif %}",
    "// Module index for {{ package }}",
    "",
    "namespace {{ namespace }} \x7b",
    "",
    "{% for name in classes %}",
    "void init_{{ name }}();",
    "{% endfor %}",
    "",
    "void init_{{ module }}()",
    "\x7b",
    "{% for name in classes %}",
    "    init_{{ name }}();",
    "{% endfor %}",
    "\x7d",
    "",
    "\x7d // namespace {{ namespace }}",
    "" ]

def templateText (ls : List String) : String :=
  String.ofList (Text.unlines (ls.map String.toList))

def templates : Ledger String String :=
  [(classTemplateName, templateText classTemplateLines),
    (indexTemplateName, templateText indexTemplateLines)]

end GlueCode.Wrapper
