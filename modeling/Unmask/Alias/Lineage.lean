import Unmask.SymbolSet
/-!
# Framework ancestry

What a class is, as far as it descends from a framework: an activity, a thread, an exception. The
class is looked at first, then its superclass as far as a resolver finds it, and so on. A chain
that comes back to a class has nothing new to offer, so the walk goes only through classes it has not
seen.
-/

namespace Unmask.Alias

/-- The packages whose classes give their name to what extends them. -/
def frameworkPackages : List String := [
  "android.app.", "android.os.", "android.view.", "android.widget.", "android.content.", "androidx."]

/-- The packages whose interfaces give their name to what implements them. -/
def interfacePackages : List String := ["java.util.concurrent.", "android.view.", "android.content."]

/-- Whether a name opens with one of some texts. -/
def opensWithAny (heads : List String) (name : String) : Bool :=
  heads.any fun h => h.toList.isPrefixOf name.toList

/-- What a class is that extends the class of that name. -/
def superBase? (name : String) : Option String :=
  if opensWithAny frameworkPackages name then some (simpleClassName name)
  else if opensWithAny ["java.lang.Thread"] name then some "Thread"
  else if Text.hasPart "Exception".toList name.toList then some "Exception"
  else none

/-- What a class is that implements the interface of that name. -/
def interfaceBase? (name : String) : Option String :=
  if name = "java.lang.Runnable" then some "Runnable"
  else if opensWithAny interfacePackages name then some (simpleClassName name)
  else none

/-- What the class is by its own declaration; the superclass counts before the interfaces. -/
def ownBase? (c : ClassDecl) : Option String :=
  (c.super.bind superBase?).or (c.interfaces.findSome? interfaceBase?)

/-- The names other than one. -/
def othersThan (name : String) (names : List String) : List String := names.filter (· != name)

theorem mem_othersThan {name other : String} {names : List String} :
    other ∈ othersThan name names ↔ other ∈ names ∧ other ≠ name := by
  simp [othersThan]

theorem length_othersThan_lt {name : String} {names : List String} (h : name ∈ names) :
    (othersThan name names).length < names.length :=
  List.length_filter_lt_length_iff_exists.2 ⟨name, h, by simp⟩

/-- What the class is, when only the classes of `unseen` are left to visit. -/
def baseAmong (r : Resolver) (unseen : List String) (c : ClassDecl) : String :=
  match ownBase? c with
  | some base => base
  | none =>
    match c.super.bind r.resolve with
    | none => ""
    | some d =>
      if h : d.fullName ∈ unseen then
        have := length_othersThan_lt h
        baseAmong r (othersThan d.fullName unseen) d
      else ""
termination_by unseen.length

/-- What the class is by its ancestry, or nothing. -/
def frameworkBase (r : Resolver) (c : ClassDecl) : String :=
  baseAmong r (othersThan c.fullName r.names) c

end Unmask.Alias
