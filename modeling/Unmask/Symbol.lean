import Unmask.Access
import Unmask.Kind
import Unmask.TypeRef
/-!
# Declared symbols

What a decompiled program declares: packages, classes, and the fields and methods of classes. A
`Symbol` is any of them, a member together with the class that owns it.

A class is known by its qualified name, `package.Outer$Inner`. Its package is what stands before the
last dot, its local name what stands after it, and its own name what stands after the last `$` of the
local name.
-/

namespace Unmask

/-- A declared package. -/
structure PackageDecl where
  fullName : String
  name : String
  /-- A name that somebody has given to the package before. -/
  given : Option String := none
  /-- Whether the package must stay as it is. -/
  keep : Bool := false
  deriving DecidableEq

namespace PackageDecl

/-- The package of a qualified name; its own name is the last part. -/
def ofName (fullName : String) : PackageDecl where
  fullName := fullName
  name := String.ofList (Text.afterLast '.' fullName.toList)

/-- Whether the package lies in no other. -/
def isRoot (p : PackageDecl) : Bool := !p.fullName.toList.contains '.'

end PackageDecl

/-- A declared field. Its type is absent where it could not be resolved. -/
structure FieldDecl where
  name : String
  type : Option TypeRef := none
  access : Access := {}
  given : Option String := none
  keep : Bool := false
  deriving DecidableEq

/-- A declared method. Its result type is absent where it could not be resolved. -/
structure MethodDecl where
  name : String
  returns : Option TypeRef := some .void
  args : List TypeRef := []
  access : Access := {}
  /-- Whether the method builds an instance. -/
  isConstructor : Bool := name == "<init>"
  /-- Whether the method sets up its class. -/
  isStaticInit : Bool := name == "<clinit>"
  /-- Whether the method redefines an inherited one. -/
  overrides : Bool := false
  given : Option String := none
  keep : Bool := false
  deriving DecidableEq

namespace MethodDecl

/-- Whether the method is run by the machine alone, so that no source code names it. -/
def isInitializer (m : MethodDecl) : Bool := m.isConstructor || m.isStaticInit

/-- Whether the method gives nothing back. -/
def returnsVoid (m : MethodDecl) : Bool := m.returns == some .void

/-- Whether the method gives back an object of that class. -/
def returnsObject (m : MethodDecl) (className : String) : Bool := m.returns.any (·.isNamed className)

end MethodDecl

/-- A declared class. -/
structure ClassDecl where
  fullName : String
  name : String
  packageName : String
  access : Access := {}
  /-- The qualified name of the class that this one extends. -/
  super : Option String := none
  /-- The qualified names of the interfaces that this class lists. -/
  interfaces : List String := []
  fields : List FieldDecl := []
  methods : List MethodDecl := []
  given : Option String := none
  keep : Bool := false
  deriving DecidableEq

namespace ClassDecl

/-- A class of that qualified name, with its own name and its package read off it. -/
def ofName (fullName : String) : ClassDecl where
  fullName := fullName
  name := String.ofList (Text.afterLast '$' (Text.afterLast '.' fullName.toList))
  packageName := String.ofList ((Text.beforeLast? '.' fullName.toList).getD [])

/-- The qualified name without the package. -/
def localName (c : ClassDecl) : String := String.ofList (Text.afterLast '.' c.fullName.toList)

/-- Whether the class is nested in another. -/
def isInner (c : ClassDecl) : Bool := c.localName.toList.contains '$'

/-- The qualified name of the class around this one. A local name that opens with its only `$` has
none. -/
def outerName? (c : ClassDecl) : Option String :=
  match Text.beforeLast? '$' c.localName.toList with
  | none => none
  | some [] => none
  | some outer =>
    match Text.beforeLast? '.' c.fullName.toList with
    | none => some (String.ofList outer)
    | some qualifier => some (String.ofList (qualifier ++ '.' :: outer))

/-- Whether the class lists the interface of that qualified name. -/
def implements (c : ClassDecl) (name : String) : Bool := c.interfaces.contains name

end ClassDecl

/-- Any declared symbol; a member comes with the class that owns it. -/
inductive Symbol where
  | pkg (p : PackageDecl)
  | cls (c : ClassDecl)
  | field (f : FieldDecl) (owner : ClassDecl)
  | method (m : MethodDecl) (owner : ClassDecl)
  deriving DecidableEq

namespace Symbol

/-- What the symbol stands for. -/
def kind : Symbol → Kind
  | pkg _ => .pkg
  | cls _ => .cls
  | field _ _ => .field
  | method _ _ => .method

/-- The symbol's own name, as declared. -/
def name : Symbol → String
  | pkg p => p.name
  | cls c => c.name
  | field f _ => f.name
  | method m _ => m.name

/-- Whether the symbol must stay as it is. -/
def isKept : Symbol → Bool
  | pkg p => p.keep
  | cls c => c.keep
  | field f _ => f.keep
  | method m _ => m.keep

/-- A name that somebody has given to the symbol before. -/
def given : Symbol → Option String
  | pkg p => p.given
  | cls c => c.given
  | field f _ => f.given
  | method m _ => m.given

/-- The class itself, or the class that owns the member. -/
def class? : Symbol → Option ClassDecl
  | pkg _ => none
  | cls c | field _ c | method _ c => some c

/-- Where the symbol stands in the program. Methods carry their argument types, since a class may
have several of one name. -/
def path : Symbol → String
  | pkg p => p.fullName
  | cls c => c.fullName
  | field f c => c.fullName ++ "." ++ f.name
  | method m c =>
    c.fullName ++ "." ++ m.name ++ "(" ++ String.intercalate "," (m.args.map TypeRef.text) ++ ")"

/-- The symbol as messages show it: its kind and its path. -/
def text (s : Symbol) : String := s.kind.id ++ " " ++ s.path

/-- Whether the symbol is a constructor or sets up a class. -/
def isInitializer : Symbol → Bool
  | method m _ => m.isInitializer
  | _ => false

end Symbol

end Unmask
