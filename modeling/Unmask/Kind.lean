/-!
# Kinds of symbols

Packages, classes, fields and methods are named apart from each other: each kind has its own
counter and its own set of taken names. `PerKind` holds one value for each.
-/

namespace Unmask

/-- What a symbol stands for. -/
inductive Kind where
  | pkg
  | cls
  | field
  | method
  deriving DecidableEq

namespace Kind

/-- Every kind, in the order in which a symbol set is walked. -/
def all : List Kind := [pkg, cls, field, method]

/-- The word for a kind. -/
def id : Kind → String
  | pkg => "package"
  | cls => "class"
  | field => "field"
  | method => "method"

/-- The kind that a word stands for. -/
def ofId? (word : String) : Option Kind := all.find? (·.id == word)

end Kind

/-- One value for each kind. -/
structure PerKind (α : Type) where
  pkg : α
  cls : α
  field : α
  method : α
  deriving DecidableEq

namespace PerKind

variable {α : Type}

/-- The same value for every kind. -/
def replicate (a : α) : PerKind α := ⟨a, a, a, a⟩

/-- The value of a kind. -/
def get (t : PerKind α) : Kind → α
  | .pkg => t.pkg
  | .cls => t.cls
  | .field => t.field
  | .method => t.method

/-- Puts a value in the place of one kind's. -/
def set (t : PerKind α) (k : Kind) (a : α) : PerKind α :=
  match k with
  | .pkg => { t with pkg := a }
  | .cls => { t with cls := a }
  | .field => { t with field := a }
  | .method => { t with method := a }

/-- The values in the order of `Kind.all`. -/
def toList (t : PerKind α) : List α := [t.pkg, t.cls, t.field, t.method]

@[simp] theorem get_replicate (a : α) (k : Kind) : (replicate a).get k = a := by cases k <;> rfl

@[simp] theorem get_set_self (t : PerKind α) (k : Kind) (a : α) : (t.set k a).get k = a := by
  cases k <;> rfl

theorem get_set_of_ne (t : PerKind α) {k l : Kind} (a : α) (h : l ≠ k) :
    (t.set k a).get l = t.get l := by
  cases k <;> cases l <;> simp_all [set, get]

end PerKind

end Unmask
