/-!
# Log records

Nothing here writes anywhere. A computation that has something to report is a `Logged` value: its
result and the records it made, in order. Sequencing two computations puts the records of the first
before those of the second (`log_bind`).
-/

namespace Unmask

/-- How important a record is, from the least to the most. -/
inductive Level where
  | trace
  | debug
  | info
  deriving DecidableEq

namespace Level

/-- The level as records show it. -/
def label : Level → String
  | trace => "TRACE"
  | debug => "DEBUG"
  | info => "INFO"

/-- The place of a level among the levels. -/
def rank : Level → Nat
  | trace => 0
  | debug => 1
  | info => 2

/-- Whether a record at level `l` is shown to a reader who asked for `least`. -/
def shows (least l : Level) : Bool := least.rank ≤ l.rank

end Level

/-- One line of a log. -/
structure Record where
  level : Level
  message : String
  deriving DecidableEq

namespace Record

/-- The record as a line: its level, a blank and the message. -/
def text (r : Record) : String := r.level.label ++ " " ++ r.message

end Record

/-- A value together with the records made on the way to it, the earliest first. -/
structure Logged (α : Type) where
  value : α
  log : List Record := []

namespace Logged

variable {α β : Type}

instance : Monad Logged where
  pure a := ⟨a, []⟩
  bind x f := ⟨(f x.value).value, x.log ++ (f x.value).log⟩

/-- Makes one record. -/
def write (level : Level) (message : String) : Logged Unit := ⟨(), [⟨level, message⟩]⟩

@[simp] theorem value_pure (a : α) : (pure a : Logged α).value = a := rfl

@[simp] theorem log_pure (a : α) : (pure a : Logged α).log = [] := rfl

@[simp] theorem value_bind (x : Logged α) (f : α → Logged β) :
    (x >>= f).value = (f x.value).value := rfl

@[simp] theorem log_bind (x : Logged α) (f : α → Logged β) :
    (x >>= f).log = x.log ++ (f x.value).log := rfl

@[simp] theorem log_write (level : Level) (message : String) :
    (write level message).log = [⟨level, message⟩] := rfl

end Logged

end Unmask
