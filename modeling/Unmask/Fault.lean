import Unmask.Decimal.Shortest
import Unmask.Kind
import Unmask.Mode
import Unmask.Tool
/-!
# Faults

What can be wrong with a request, and the wording of it. The words for modes, kinds and tools are
read here, since reading one can fail.
-/

namespace Unmask

/-- What can be wrong with settings. -/
inductive SettingsFault where
  | zeroMaxLength
  | minAboveMax (min max : Nat)
  | badThreshold (threshold : Float)
  | emptySeparator
  | badSeparator (separator : String)

namespace SettingsFault

/-- The fault in words. -/
def message : SettingsFault → String
  | zeroMaxLength => "max_length must be greater than zero"
  | minAboveMax min max =>
    "min_length (" ++ toString min ++ ") exceeds max_length (" ++ toString max ++ ")"
  | badThreshold threshold =>
    "entropy_threshold must be a finite non-negative number, got " ++ Decimal.shortest threshold
  | emptySeparator => "dedup_separator must not be empty"
  | badSeparator separator =>
    "dedup_separator '" ++ separator ++ "' contains characters not allowed in identifiers"

end SettingsFault

/-- What can be wrong with a request. -/
inductive Fault where
  /-- No mode of that name. -/
  | unknownMode (name : String)
  /-- Settings that contradict themselves. -/
  | invalidSettings (cause : SettingsFault)
  /-- No kind or tool of that name. -/
  | unknownWord

namespace Fault

/-- The fault in words. -/
def message : Fault → String
  | unknownMode name => "Unknown deobfuscation mode - " ++ name
  | invalidSettings cause => "Invalid configuration: " ++ cause.message
  | unknownWord => "Matching variant not found"

end Fault

/-- The mode that a word stands for. -/
def Mode.read (word : String) : Except Fault Mode :=
  match Mode.ofName? word with
  | some mode => .ok mode
  | none => .error (.unknownMode word)

/-- The kind that a word stands for. -/
def Kind.read (word : String) : Except Fault Kind :=
  match Kind.ofId? word with
  | some kind => .ok kind
  | none => .error .unknownWord

/-- The tool that a word stands for. -/
def Tool.read (word : String) : Except Fault Tool :=
  match Tool.ofId? word with
  | some tool => .ok tool
  | none => .error .unknownWord

end Unmask
