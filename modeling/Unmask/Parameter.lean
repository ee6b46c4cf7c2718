import Unmask.Alias.Registry
import Unmask.Symbol
import Unmask.Text.Case
/-!
# Names for parameters

A parameter rarely keeps its name through compilation. Its type and its place suggest one: a usual
word for a built-in type, a word from the class name for an object. `suggestAll` tells equal
suggestions apart by numbers.
-/

namespace Unmask.Parameter

/-! ## Names to replace -/

/-- Whether a name is one of some heads and then digits, at least one. -/
def isNumberedBy (heads : List String) (s : List Char) : Bool :=
  heads.any fun h =>
    h.toList.isPrefixOf s && !(s.drop h.length).isEmpty && (s.drop h.length).all Char.isDigit

/-- The names that the language itself gives. -/
def ownNames : List String := ["this", "super", "self"]

/-- Whether the name looks made up by a tool: a small letter, a small letter or a usual stem and a
number, or a numbered reference to an outer instance. -/
def isObfuscated (name : String) : Bool :=
  !ownNames.contains name &&
  match name.toList with
  | [] => false
  | c :: r =>
    (c.isLower && r.all Char.isDigit) || isNumberedBy ["arg", "param", "var", "this$"] (c :: r)

/-! ## Suggestions -/

/-- The word, with its place unless it is the first. -/
def numbered (word : String) (index : Nat) : String := if index = 0 then word else word ++ toString index

/-- The word of a list at that place, or else a stem and the place. -/
def listed (words : List String) (stem : String) (index : Nat) : String :=
  words.getD index (stem ++ toString index)

/-- The usual words for whole numbers. -/
def intWords : List String := ["index", "count", "size", "position", "id", "offset", "length"]

/-- The usual words for texts. -/
def textWords : List String := ["str", "text", "name", "value", "message", "content"]

/-- Classes that have a word of their own, which goes before words by parts of the name. -/
def exactWords : List (String × String) := [
  ("android.content.Context", "context"), ("android.content.Intent", "intent"),
  ("android.os.Bundle", "bundle"), ("android.view.View", "view")]

/-- Words by a part of the class name. -/
def frameworkWords : List (String × String) := [
  ("Activity", "activity"), ("Fragment", "fragment"), ("Handler", "handler"), ("Listener", "listener"),
  ("Callback", "callback"), ("Adapter", "adapter"), ("List", "list"), ("Map", "map"), ("Set", "set"),
  ("Collection", "collection"), ("Iterator", "iterator")]

/-- Classes that have a word of their own, which goes after words by parts of the name. -/
def libraryWords : List (String × String) := [
  ("java.lang.Object", "obj"), ("java.lang.Class", "clazz"), ("java.lang.Throwable", "exception"),
  ("java.io.File", "file")]

/-- More words by a part of the class name. -/
def streamWords : List (String × String) := [
  ("Exception", "exception"), ("InputStream", "stream"), ("OutputStream", "stream"),
  ("Reader", "reader"), ("Writer", "reader")]

/-- The word of a table for a class by its whole name. -/
def wholeWord? (table : List (String × String)) (name : String) : Option String :=
  (table.find? (·.1 == name)).map (·.2)

/-- The word of a table for a class by a part of its name. -/
def partWord? (table : List (String × String)) (name : String) : Option String :=
  (table.find? fun row => Text.hasPart row.1.toList name.toList).map (·.2)

/-- Takes characters of a class name into a word of small letters, up to the first capital after a
small letter, and no further once the word has twelve characters. -/
def leadingWord (word : List Char) (lastUpper : Bool) : List Char → List Char
  | [] => word
  | c :: r =>
    if 12 ≤ word.length then word
    else if Text.isUpper c then
      if lastUpper then leadingWord (word ++ Text.lower c) true r else word
    else leadingWord (word ++ [c]) false r

/-- The name of a class without its package and the classes around it. -/
def ownPart (name : List Char) : List Char := (name.reverse.takeWhile fun c => c != '.' && c != '$').reverse

/-- The suggestion from the first word of a class name. -/
def fromClassName (name : List Char) (index : Nat) : String :=
  match name with
  | [] => "obj" ++ toString index
  | c :: r => numbered (String.ofList (leadingWord (Text.lower c) true r)) index

/-- The suggestion for an object. -/
def suggestObject (name : String) (index : Nat) : String :=
  if name = "java.lang.String" then listed textWords "str" index
  else
    match (wholeWord? exactWords name).or <| (partWord? frameworkWords name).or <|
      (wholeWord? libraryWords name).or (partWord? streamWords name) with
    | some word => word
    | none => fromClassName (ownPart name.toList) index

/-- The suggestion for a parameter of a type at a place. -/
def suggestFor (type : TypeRef) (index : Nat) : String :=
  match type with
  | .boolean => numbered "flag" index
  | .int => listed intWords "n" index
  | .long | .short => numbered "value" index
  | .float | .double => numbered "number" index
  | .byte => numbered "b" index
  | .char => numbered "ch" index
  | .array element => suggestFor element 0 ++ "Array"
  | .object name => suggestObject name index
  | .void => "param" ++ toString index

/-- The suggestion for a parameter, of whose type nothing may be known. -/
def suggest (type : Option TypeRef) (index : Nat) : String :=
  match type with
  | none => "param" ++ toString index
  | some t => suggestFor t index

/-- The names for the remaining parameters, from a place on and beside names already used. -/
def suggestFrom (used : List String) (index : Nat) : List TypeRef → List String
  | [] => []
  | t :: rest =>
    let name := freeName "" (suggestFor t index) used
    name :: suggestFrom (name :: used) (index + 1) rest

/-- One name for each parameter, all different. -/
def suggestAll (types : List TypeRef) : List String := suggestFrom [] 0 types

end Unmask.Parameter
