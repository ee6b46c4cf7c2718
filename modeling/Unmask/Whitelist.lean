import Unmask.Symbol
import Unmask.Text.Blank
/-!
# Whitelists

A whitelist names what stays as it is: a class by its qualified name, or a package, with the classes
right in it, by its qualified name and `.*`.
-/

namespace Unmask

/-- The packages and classes that stay as they are. -/
structure Whitelist where
  packages : List String := []
  classes : List String := []
  deriving DecidableEq

namespace Whitelist

/-- What one entry of a whitelist names. -/
inductive Entry where
  | wholePackage (name : String)
  | oneClass (name : String)
  deriving DecidableEq

/-- Reads an entry. White space around it does not count, and an entry of nothing else names
nothing. -/
def Entry.read? (entry : String) : Option Entry :=
  match (Text.trim entry.toList).reverse with
  | [] => none
  | '*' :: '.' :: r => some (.wholePackage (String.ofList r.reverse))
  | r => some (.oneClass (String.ofList r.reverse))

/-- The whitelist of some entries. -/
def ofEntries (entries : List String) : Whitelist :=
  let read := entries.filterMap Entry.read?
  { packages := read.filterMap fun | .wholePackage p => some p | .oneClass _ => none
    classes := read.filterMap fun | .wholePackage _ => none | .oneClass c => some c }

/-- Whether the symbol is listed. Members are not listed on their own. -/
def lists (w : Whitelist) : Symbol → Bool
  | .pkg p => w.packages.contains p.fullName
  | .cls c => w.classes.contains c.fullName || w.packages.contains c.packageName
  | .field _ _ | .method _ _ => false

end Whitelist

end Unmask
