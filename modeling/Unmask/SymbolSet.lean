import Unmask.Symbol
/-!
# Symbol sets

The declarations of one program. `SymbolSet.build` makes a set of the packages and classes that were
handed over, one after the other.

- A class whose qualified name came before takes the earlier one's place, so names stay distinct.
- Every package that holds a class, and every package around one, is in the set, whether it was
  handed over or not.

`symbols` lists everything in the order of a walk: packages, classes, all fields, all methods.

Whoever only looks classes up by name asks a `Resolver`. A set is one, and there may be others.
-/

namespace Unmask

/-- The packages and classes of a program. -/
structure SymbolSet where
  packages : List PackageDecl := []
  classes : List ClassDecl := []

namespace SymbolSet

/-! ## Making a set -/

/-- Adds a class: in the place of the one with its qualified name, or else at the end. -/
def addClass (classes : List ClassDecl) (c : ClassDecl) : List ClassDecl :=
  if classes.any (·.fullName == c.fullName) then
    classes.map fun d => if d.fullName == c.fullName then c else d
  else classes ++ [c]

/-- Adds the package of that qualified name, unless there is one. -/
def addPackage (packages : List PackageDecl) (fullName : String) : List PackageDecl :=
  if packages.any (·.fullName == fullName) then packages
  else packages ++ [PackageDecl.ofName fullName]

/-- The prefixes of a qualified name that end before a dot or at the end, the shortest first. -/
def dotPrefixes : List Char → List (List Char)
  | [] => [[]]
  | c :: r =>
    if c = '.' then [] :: (dotPrefixes r).map (c :: ·) else (dotPrefixes r).map (c :: ·)

/-- The packages in which a class lies, from the outermost to its own. A class outside of any
package lies in none. -/
def packagesAround (c : ClassDecl) : List String :=
  if c.packageName.isEmpty then [] else (dotPrefixes c.packageName.toList).map String.ofList

/-- The set of the packages and classes that were handed over. -/
def build (packages : List PackageDecl) (classes : List ClassDecl) : SymbolSet :=
  let classes := classes.foldl addClass []
  ⟨(classes.flatMap packagesAround).foldl addPackage packages, classes⟩

theorem addClass_of_mem {classes : List ClassDecl} {c : ClassDecl} (h : c.fullName ∈ classes.map (·.fullName)) :
    addClass classes c = classes.map fun d => if d.fullName == c.fullName then c else d := by
  unfold addClass
  exact if_pos (by simpa using h)

theorem addClass_of_not_mem {classes : List ClassDecl} {c : ClassDecl}
    (h : c.fullName ∉ classes.map (·.fullName)) : addClass classes c = classes ++ [c] := by
  unfold addClass
  exact if_neg (by simpa using h)

theorem map_fullName_addClass (cs : List ClassDecl) (c : ClassDecl) :
    (addClass cs c).map (·.fullName) =
      if c.fullName ∈ cs.map (·.fullName) then cs.map (·.fullName)
      else cs.map (·.fullName) ++ [c.fullName] := by
  by_cases h : c.fullName ∈ cs.map (·.fullName)
  · rw [addClass_of_mem h, if_pos h, List.map_map]
    refine List.map_congr_left fun d _ => ?_
    by_cases he : d.fullName = c.fullName <;> simp [he]
  · rw [addClass_of_not_mem h, if_neg h, List.map_append]
    rfl

/-! ## Reading a set -/

/-- The class of that qualified name. -/
def resolve (set : SymbolSet) (name : String) : Option ClassDecl :=
  set.classes.find? (·.fullName == name)

/-- The package of that qualified name. -/
def package? (set : SymbolSet) (name : String) : Option PackageDecl :=
  set.packages.find? (·.fullName == name)

/-- The fields of all classes, class by class. -/
def fields (set : SymbolSet) : List Symbol :=
  set.classes.flatMap fun c => c.fields.map (Symbol.field · c)

/-- The methods of all classes, class by class. -/
def methods (set : SymbolSet) : List Symbol :=
  set.classes.flatMap fun c => c.methods.map (Symbol.method · c)

/-- Everything in the set, in the order of a walk. -/
def symbols (set : SymbolSet) : List Symbol :=
  set.packages.map Symbol.pkg ++ set.classes.map Symbol.cls ++ set.fields ++ set.methods

/-- Whether nothing is declared. -/
def isEmpty (set : SymbolSet) : Bool := set.packages.isEmpty && set.classes.isEmpty

end SymbolSet

/-! ## Looking classes up -/

/-- A look-up of classes by name. The classes that it can find are those of a program, so their qualified names are
known. What it finds need not have the name that was asked for. -/
structure Resolver where
  resolve : String → Option ClassDecl
  names : List String
  known : ∀ {name : String} {c : ClassDecl}, resolve name = some c → c.fullName ∈ names

/-- A set finds its own classes. -/
@[coe] def SymbolSet.resolver (set : SymbolSet) : Resolver where
  resolve := set.resolve
  names := set.classes.map (·.fullName)
  known h := List.mem_map_of_mem (List.mem_of_find?_eq_some h)

instance : Coe SymbolSet Resolver := ⟨SymbolSet.resolver⟩

end Unmask
