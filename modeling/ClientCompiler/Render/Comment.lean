import ClientCompiler.Text.Blank
import ClientCompiler.Value.Text

/-!
Text inside a block comment: on one line, and without the sign that ends the comment.
-/

namespace ClientCompiler.Render

def escapeClosing : List Char → List Char
  | '*' :: '/' :: cs => '*' :: '\\' :: '/' :: escapeClosing cs
  | c :: cs => c :: escapeClosing cs
  | [] => []

/-- The words of a text with single spaces between them, safe inside a comment. -/
def docComment (s : List Char) : List Char := escapeClosing (Value.joined [' '] (Text.words s))

end ClientCompiler.Render
