import Unmask.Alias.Hint
import Unmask.Alias.Lineage
import Unmask.Alias.Registry
import Unmask.Alias.Role
import Unmask.Counters
import Unmask.Decimal.Binary
import Unmask.Log
/-!
# Namers

A namer makes an alias for a symbol: a mark of its kind, the number of the kind's counter and a hint
of the old name, put through a registry. The plain style numbers symbols; the descriptive style also
tells their role.

The wish for a symbol (`wish`) depends on the counter of its kind and on nothing else that changes, and
naming a symbol moves only that counter and that kind's names.
-/

namespace Unmask

/-- What descriptive aliases tell. -/
structure Traits where
  rolePrefixes : Bool := true
  frameworkBases : Bool := true
  semanticTags : Bool := true
  /-- Whether classes, fields and methods carry a hint of the old name. -/
  keepHint : Bool := true
  deriving DecidableEq

/-- How aliases are made. -/
inductive Style where
  /-- By numbers. -/
  | plain
  /-- By roles and numbers. -/
  | descriptive (traits : Traits)
  deriving DecidableEq

namespace Style

/-- The word for a style. -/
def id : Style → String
  | plain => "index"
  | descriptive _ => "semantic"

end Style

/-- Makes aliases, and remembers what it has made. -/
structure Namer where
  style : Style := .plain
  /-- Longer names are hinted at by a digest. -/
  maxLength : Nat := 64
  counters : Counters := Counters.zero
  registry : Registry := {}

namespace Namer

/-! ## The plain style -/

/-- The mark of a class of the plain style. -/
def plainClassMark (c : ClassDecl) : String :=
  if c.access.isEnum then "Enum"
  else if c.access.isInterface then "Interface"
  else if c.access.isAbstract then "Abstract"
  else ""

/-- The wish of the plain style. -/
def plainWish (maxLength : Nat) (s : Symbol) (n : Nat) : String :=
  let hint := Alias.hint maxLength s.name
  match s with
  | .pkg _ => "p" ++ Decimal.padded 3 n ++ hint
  | .cls c => plainClassMark c ++ "C" ++ Decimal.padded 4 n ++ hint
  | .field _ _ => "f" ++ toString n ++ hint
  | .method _ _ => "m" ++ toString n ++ hint

/-! ## The descriptive style -/

/-- The mark of a class by its declaration and its ancestry. An enumeration is nothing else. -/
def classMark (t : Traits) (r : Resolver) (c : ClassDecl) : String :=
  if c.access.isEnum then if t.rolePrefixes then "Enum" else ""
  else
    (if t.rolePrefixes then
      if c.access.isInterface then "I" else if c.access.isAbstract then "Abstract" else ""
    else "") ++
    if t.frameworkBases then Alias.frameworkBase r c else ""

/-- The wish of the descriptive style. -/
def descriptiveWish (t : Traits) (maxLength : Nat) (r : Resolver) (s : Symbol) (n : Nat) : String :=
  let hint := if t.keepHint then Alias.hint maxLength s.name else ""
  match s with
  | .pkg p => "pkg" ++ Decimal.padded 3 n ++ Alias.hint maxLength (Alias.meaningfulPart p.name)
  | .cls c =>
    classMark t r c ++ "C" ++ Decimal.padded 4 n ++ (if t.semanticTags then Alias.classTag c else "") ++
      hint
  | .field f _ => (if t.rolePrefixes then Alias.fieldCode f.type else "f") ++ toString n ++ hint
  | .method m _ =>
    (if t.rolePrefixes then Alias.methodRole m else "m") ++ toString n ++
      (if t.rolePrefixes then Alias.returnTag m.returns else "") ++ hint

/-! ## Naming -/

/-- The alias that the namer would give if nothing were taken, by the number of the symbol. -/
def wish (namer : Namer) (r : Resolver) (s : Symbol) (n : UInt32) : String :=
  match namer.style with
  | .plain => plainWish namer.maxLength s n.toNat
  | .descriptive t => descriptiveWish t namer.maxLength r s n.toNat

/-- Gives a symbol its alias. -/
def name (namer : Namer) (r : Resolver) (s : Symbol) : Logged (String × Namer) := do
  let (n, counters) := namer.counters.next s.kind
  let (chosen, registry) := namer.registry.register s.kind (namer.wish r s n)
  Logged.write .debug (s.kind.id ++ " alias " ++ chosen)
  pure (chosen, { namer with counters, registry })

end Namer

end Unmask
