import ClientCompiler.Proofs.Template.Agreement
import ClientCompiler.Proofs.Template.Writing
import ClientCompiler.Render.Artifact

/-!
The packaged templates as they are read: what each of them writes, and on which conditions.
-/

namespace ClientCompiler.Render.Packaged

open Template

/-! ## Parts of templates -/

def field (n f : String) : Expr := .access (.name n) f

def documented (e : Expr) : Expr := .filter "doc_comment" e [] []

def listed (e : Expr) : Expr := .filter "join" e [.const (.text ", ".toList)] []

def namesSent (location : String) : Expr :=
  .filter "list" (.filter "map" (.filter "selectattr" (field "op" "parameters")
    [.const (.text "location".toList), .const (.text "equalto".toList),
      .const (.text location.toList)] []) [] [("attribute", .const (.text "name".toList))]) [] []

def line (s : String) : Node := .text s.toList

def when (e : Expr) (yes : List Node) : Node := .branch e yes []

/-! ## The templates -/

def propertyNodes : List Node :=
  [when (field "prop" "description")
      [line "  /**\n   * @description ", .output (documented (field "prop" "description")),
        line "\n   */\n"],
    line "  ", .output (.filter "ts_property" (field "prop" "name") [] []),
    when (.negation (field "prop" "required")) [line "?"],
    line ": ", .output (field "prop" "type"), line ";\n"]

def modelNodes : List Node :=
  [when (field "model" "title")
      [line "/**\n * @title ", .output (documented (field "model" "title")), line "\n */\n"],
    line "export interface ", .output (field "model" "name"),
    when (field "model" "generics")
      [line "<", .output (listed (field "model" "generics")), line ">"],
    line " \x7b\n", loopOver "prop" (field "model" "properties") propertyNodes [], line "\x7d\n\n"]

def typesProgram : Program :=
  ⟨⟨[("models", .given)], []⟩, [loopOver "model" (.name "models") modelNodes []]⟩

def headerProgram : Program :=
  ⟨⟨[("imports", .given)], []⟩,
    [line "import axios from \"axios\";\n",
      when (.name "imports")
        [line "import type \x7b ", .output (listed (.name "imports")),
          line " \x7d from \"../types\";\n"]]⟩

def parameterNodes : List Node :=
  [.output (field "p" "name"), line ": ", .output (field "p" "type"),
    when (.negation (field "loop" "last")) [line ", "]]

def formNodes : List Node :=
  [line "    _formData.append(\"", .output (.name "name"), line "\", ", .output (.name "name"),
    line " as any);\n"]

def dataNodes : List Node :=
  [.branch (.name "body") [line ", ", .output (.item (.name "body") (.const (.int 0)))]
    [.branch (.name "form_data") [line ", _formData"]
      [when (.name "query") [line ", undefined"]]]]

def selectionNodes : List Node :=
  [.assign (.name "body") (namesSent "body"), .assign (.name "form_data") (namesSent "formData"),
    .assign (.name "query") (namesSent "query"),
    .assign (.name "sends_data") (.compare (.access (field "op" "method") "value")
      [(.within, .const (.tuple [.text "put".toList, .text "post".toList, .text "patch".toList]))])]

def operationCommentNodes : List Node :=
  [line "  /**\n   * ", .output (.filter "upper" (.access (field "op" "method") "value") [] []),
    line " ", .output (field "op" "path"), line "\n",
    when (field "op" "description")
      [line "   * @description ", .output (documented (field "op" "description")), line "\n"]]

def signatureNodes : List Node :=
  [line "   */\n  ", .output (field "op" "name"), line "(",
    loopOver "p" (field "op" "parameters") parameterNodes [], line ") \x7b\n"]

def callNodes : List Node :=
  [when (.name "form_data")
      [line "    const _formData = new FormData();\n",
        loopOver "name" (.name "form_data") formNodes []],
    line "    return axios.", .output (.access (field "op" "method") "value"),
    when (field "op" "return_type") [line "<", .output (field "op" "return_type"), line ">"],
    line "(\x60", .output (field "op" "path"), line "\x60",
    when (.name "sends_data") dataNodes,
    when (.name "query")
      [line ", \x7b params: \x7b ", .output (listed (.name "query")), line " \x7d \x7d"],
    line ");\n  \x7d,\n"]

def operationNodes : List Node :=
  selectionNodes ++ operationCommentNodes ++ signatureNodes ++ callNodes

def bodyProgram : Program :=
  ⟨⟨[("operations", .given)], []⟩,
    [line "\x7b\n",
      loopOver "op" (.name "operations") operationNodes
        ["body", "form_data", "query", "sends_data"],
      line "\x7d\n"]⟩

def footerProgram : Program := ⟨.empty, []⟩

def wrapperProgram : Program :=
  ⟨⟨[("module_header", .given), ("description", .given), ("module_body", .given),
      ("module_footer", .given)], []⟩,
    [.output (.name "module_header"), line "\n",
      when (.name "description")
        [line "/**\n * @description ", .output (documented (.name "description")), line "\n */\n"],
      line "export default ", .output (.name "module_body"), line "\n",
      .output (.name "module_footer"), line "\n"]⟩

/-! ## Reading them -/

-- A text that is put together is slow to read, so that it is taken apart first.

theorem parse_types : parse types.toList = .ok typesProgram := by
  refine parse_of_isReadAs ?_
  simp only [types, lines, tag, out, String.toList_append]
  decide +kernel

theorem parse_header : parse header.toList = .ok headerProgram := by
  refine parse_of_isReadAs ?_
  simp only [header, lines, tag, out, String.toList_append]
  decide +kernel

theorem parse_wrapper : parse wrapper.toList = .ok wrapperProgram := by
  refine parse_of_isReadAs ?_
  simp only [wrapper, lines, tag, out, String.toList_append]
  decide +kernel

theorem parse_footer : parse footer.toList = .ok footerProgram := rfl

theorem parse_body : parse body.toList = .ok bodyProgram := by
  refine parse_of_isReadAs ?_
  simp only [body, lines, tag, closeTag, selectNames, out, String.toList_append]
  decide +kernel

end ClientCompiler.Render.Packaged
