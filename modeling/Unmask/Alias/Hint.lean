import Unmask.Digest
import Unmask.Text.Identifier
import Unmask.Text.Part
/-!
# Hints

The part of an alias that reminds of the obfuscated name. Only plain characters come through
(`sanitize`), and a name that is too long is replaced by a digest.
-/

namespace Unmask.Alias

/-- The plain characters of a name. -/
def sanitize (name : String) : String := String.ofList (name.toList.filter Text.isPlain)

/-- The hint for a name: `x` and a digest if the name is longer than `maxLength`, or else its plain
characters. -/
def hint (maxLength : Nat) (name : String) : String :=
  if name.length = 0 then ""
  else if maxLength < name.length then "x" ++ Digest.short name
  else sanitize name

/-- Whether a character is a mark that tools put around names. -/
def isFence (c : Char) : Bool := c == '_' || c == '$'

/-- The part of a package name that may mean something: without a number at its end and without
fences around, if more than two characters are left. -/
def meaningfulPart (name : String) : String :=
  let core := Text.dropRight isFence ((Text.dropRight Char.isDigit name.toList).dropWhile isFence)
  if core.length ≤ 2 then "" else String.ofList core

end Unmask.Alias
