import Unmask.Text.Letter
import Unmask.Text.Numeral
/-!
# Identifiers

Two notions of what may stand in a name. `isPlain` is the narrow one, which every alias keeps to:
ASCII letters, digits, `_` and `$`. `isIdentifier` is the wide one, which source code accepts: a
letter of any script, `_` or `$`, then letters, numerals, `_` and `$`, and no reserved word.
-/

namespace Unmask.Text

/-- Whether a character may stand in an alias. -/
def isPlain (c : Char) : Bool := c.isAlphanum || c == '_' || c == '$'

/-- Whether a character may open an identifier. -/
def isIdentifierStart (c : Char) : Bool := isLetter c || c == '_' || c == '$'

/-- Whether a character may follow in an identifier. -/
def isIdentifierRest (c : Char) : Bool := isLetter c || isNumeral c || c == '_' || c == '$'

/-- The words that are identifiers in shape and are taken by the language. -/
def reservedWords : List String := [
  "abstract", "assert", "boolean", "break", "byte", "case", "catch", "char", "class", "const",
  "continue", "default", "do", "double", "else", "enum", "extends", "false", "final", "finally",
  "float", "for", "goto", "if", "implements", "import", "instanceof", "int", "interface", "long",
  "native", "new", "null", "package", "private", "protected", "public", "return", "short",
  "static", "strictfp", "super", "switch", "synchronized", "this", "throw", "throws",
  "transient", "true", "try", "void", "volatile", "while", "_"]

/-- Whether a name can be declared in source code. -/
def isIdentifier (name : String) : Bool :=
  match name.toList with
  | [] => false
  | c :: r => isIdentifierStart c && r.all isIdentifierRest && !reservedWords.contains name

end Unmask.Text
