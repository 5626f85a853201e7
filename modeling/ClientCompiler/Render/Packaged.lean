import ClientCompiler.Settings.Basic

/-!
The packaged templates: one for the types of a client, and one for each slot of a module.
-/

namespace ClientCompiler.Render.Packaged

def tag (s : String) : String := "\x7b% " ++ s ++ " %\x7d"

/-- A tag of a statement that drops the white space before it. -/
def closeTag (s : String) : String := "\x7b%- " ++ s ++ " %\x7d"

def out (s : String) : String := "\x7b\x7b " ++ s ++ " \x7d\x7d"

def selectNames (name location : String) : String :=
  tag ("set " ++ name ++ " = op.parameters | selectattr(\"location\", \"equalto\", \"" ++ location ++
    "\") | map(attribute=\"name\") | list")

def lines : List String → String
  | [] => ""
  | l :: ls => l ++ "\n" ++ lines ls

def types : String :=
  lines [
    tag "for model in models",
    tag "if model.title",
    "/**",
    " * @title " ++ out "model.title | doc_comment",
    " */",
    tag "endif",
    "export interface " ++ out "model.name" ++ tag "if model.generics" ++ "<" ++
      out "model.generics | join(\", \")" ++ ">" ++ tag "endif" ++ " \x7b",
    tag "for prop in model.properties",
    tag "if prop.description",
    "  /**",
    "   * @description " ++ out "prop.description | doc_comment",
    "   */",
    tag "endif",
    "  " ++ out "prop.name | ts_property" ++ tag "if not prop.required" ++ "?" ++
      tag "endif" ++ ": " ++ out "prop.type" ++ ";",
    tag "endfor",
    "\x7d",
    "",
    tag "endfor"]

def header : String :=
  lines [
    "import axios from \"axios\";",
    tag "if imports",
    "import type \x7b " ++ out "imports | join(\", \")" ++ " \x7d from \"../types\";",
    tag "endif"]

def body : String :=
  lines [
    "\x7b",
    tag "for op in operations",
    selectNames "body" "body",
    selectNames "form_data" "formData",
    selectNames "query" "query",
    tag "set sends_data = op.method.value in (\"put\", \"post\", \"patch\")",
    "  /**",
    "   * " ++ out "op.method.value | upper" ++ " " ++ out "op.path",
    tag "if op.description",
    "   * @description " ++ out "op.description | doc_comment",
    tag "endif",
    "   */",
    "  " ++ out "op.name" ++ "(" ++ tag "for p in op.parameters" ++ out "p.name" ++ ": " ++
      out "p.type" ++ tag "if not loop.last" ++ ", " ++ tag "endif" ++ tag "endfor" ++ ") \x7b",
    tag "if form_data",
    "    const _formData = new FormData();",
    tag "for name in form_data",
    "    _formData.append(\"" ++ out "name" ++ "\", " ++ out "name" ++ " as any);",
    tag "endfor",
    tag "endif",
    "    return axios." ++ out "op.method.value" ++ tag "if op.return_type" ++ "<" ++
      out "op.return_type" ++ ">" ++ tag "endif" ++ "(\x60" ++ out "op.path" ++ "\x60",
    closeTag "if sends_data" ++ tag "if body" ++ ", " ++ out "body[0]" ++
      tag "elif form_data" ++ ", _formData" ++ tag "elif query" ++ ", undefined" ++
      tag "endif" ++ tag "endif",
    closeTag "if query" ++ ", \x7b params: \x7b " ++ out "query | join(\", \")" ++
      " \x7d \x7d" ++ tag "endif" ++ ");",
    "  \x7d,",
    tag "endfor",
    "\x7d"]

def footer : String := ""

def wrapper : String :=
  lines [
    out "module_header",
    tag "if description",
    "/**",
    " * @description " ++ out "description | doc_comment",
    " */",
    tag "endif",
    "export default " ++ out "module_body",
    out "module_footer"]

def slots : Slots String := ⟨header, body, footer, wrapper⟩

end ClientCompiler.Render.Packaged
