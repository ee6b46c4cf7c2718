import Unmask.Text.Part
import Unmask.Text.Pictograph
/-!
# Shapes of names

The recognisers behind the signatures: each says whether a name, as a list of characters, has one of
the shapes that renaming tools leave behind. Letters, digits and capitals are the ASCII ones here.
-/

namespace Unmask.Shape

/-- Whether a character is a hexadecimal digit, of either case. -/
def isHex (c : Char) : Bool :=
  c.isDigit || ('a' ≤ c && c ≤ 'f') || ('A' ≤ c && c ≤ 'F')

/-- One or two letters of one case, or two small letters with a `$` between them. -/
def isShortLetters : List Char → Bool
  | [a] => a.isLower || a.isUpper
  | [a, b] => (a.isLower && b.isLower) || (a.isUpper && b.isUpper)
  | [a, '$', b] => a.isLower && b.isLower
  | _ => false

/-- `zz` and a letter, or `_` and one or two letters. -/
def isSequentialPrefix : List Char → Bool
  | ['z', 'z', a] => a.isAlpha
  | ['_', a] => a.isAlpha
  | ['_', a, b] => a.isAlpha && b.isAlpha
  | _ => false

/-- Whether a character is from the upper half of Latin-1, a combining mark, a pictograph or a
spacing modifier. -/
def isExtended (c : Char) : Bool :=
  (0x80 ≤ c.toNat && c.toNat ≤ 0xFF) || (0x300 ≤ c.toNat && c.toNat ≤ 0x36F) || Text.isPictograph c

/-- Eight or more hexadecimal digits, or `_0x` and at least one. -/
def isLongHex : List Char → Bool
  | '_' :: '0' :: 'x' :: r => !r.isEmpty && r.all isHex
  | s => 8 ≤ s.length && s.all isHex

/-- Two or more underscores before, or after, letters and digits. -/
def isUnderscoreFenced (s : List Char) : Bool :=
  (2 ≤ (s.takeWhile (· == '_')).length && (s.dropWhile (· == '_')).all Char.isAlphanum) ||
    (2 ≤ (s.dropWhile Char.isAlphanum).length && (s.dropWhile Char.isAlphanum).all (· == '_'))

/-- Letter, digit, letter, digit and then letters and digits, or three or more capitals and then
digits. -/
def isAlternating (s : List Char) : Bool :=
  (match s with
    | a :: b :: c :: d :: r => a.isAlpha && b.isDigit && c.isAlpha && d.isDigit && r.all Char.isAlphanum
    | _ => false) ||
  (3 ≤ (s.takeWhile Char.isUpper).length && !(s.dropWhile Char.isUpper).isEmpty &&
    (s.dropWhile Char.isUpper).all Char.isDigit)

/-- A `$` and digits at the end. -/
def hasNumericSuffix (s : List Char) : Bool :=
  match s.reverse with
  | [] => false
  | d :: r => d.isDigit && (r.dropWhile Char.isDigit).head? == some '$'

/-- One of the marks that compilers put into the names of anonymous functions. -/
def hasLambdaMark (s : List Char) : Bool :=
  Text.hasPart ['$', '$', 'L', 'a', 'm', 'b', 'd', 'a', '$'] s || Text.hasPart ['-', '$', '$'] s

/-- One character, three times or more. -/
def isRepeated : List Char → Bool
  | [] => false
  | c :: r => 2 ≤ r.length && r.all (· == c)

/-- Six or more hexadecimal digits, or eight or more characters with at least two of `+`, `/`, `=`. -/
def looksEncoded (s : List Char) : Bool :=
  (6 ≤ s.length && s.all isHex) ||
    (8 ≤ s.length && 2 ≤ s.countP fun c => c == '+' || c == '/' || c == '=')

end Unmask.Shape
