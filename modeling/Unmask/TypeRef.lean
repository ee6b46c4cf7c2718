import Unmask.Text.Part
/-!
# References to types

The type of a field, a parameter or a result, as far as it is known: one of the built-in types, an
array, or a class by its qualified name.
-/

namespace Unmask

/-- A type as a declaration mentions it. -/
inductive TypeRef where
  | void
  | boolean
  | byte
  | char
  | short
  | int
  | long
  | float
  | double
  | array (element : TypeRef)
  | object (name : String)
  deriving DecidableEq

namespace TypeRef

/-- The type as source code writes it. -/
def text : TypeRef → String
  | void => "void"
  | boolean => "boolean"
  | byte => "byte"
  | char => "char"
  | short => "short"
  | int => "int"
  | long => "long"
  | float => "float"
  | double => "double"
  | array element => element.text ++ "[]"
  | object name => name

/-- Whether values of the type are numbers, characters or truth values. -/
def isPrimitive : TypeRef → Bool
  | boolean | byte | char | short | int | long | float | double => true
  | void | array _ | object _ => false

/-- The class of an object type. -/
def objectName? : TypeRef → Option String
  | object name => some name
  | _ => none

/-- The element type of an array type. -/
def element? : TypeRef → Option TypeRef
  | array element => some element
  | _ => none

/-- Whether the type is the class of that qualified name. -/
def isNamed (t : TypeRef) (name : String) : Bool := t.objectName? == some name

end TypeRef

/-- The class name without its package and without the marks between nested classes. -/
def simpleClassName (qualified : String) : String :=
  String.ofList ((Text.afterLast '.' qualified.toList).filter (· != '$'))

end Unmask
