import Unmask.Text.Blank
/-!
# Modes

How eagerly symbols are renamed. `auto` stands for whichever of the four working modes a survey of the
program recommends.
-/

namespace Unmask

/-- How eagerly symbols are renamed. -/
inductive Mode where
  | disabled
  | conservative
  | balanced
  | enhanced
  | aggressive
  | auto
  deriving DecidableEq

namespace Mode

/-- Every mode. -/
def all : List Mode := [disabled, conservative, balanced, enhanced, aggressive, auto]

/-- The mode of those who do not choose. -/
def standard : Mode := balanced

/-- The word for a mode. -/
def id : Mode → String
  | disabled => "disabled"
  | conservative => "conservative"
  | balanced => "default"
  | enhanced => "enhanced"
  | aggressive => "aggressive"
  | auto => "auto"

/-- A mode in one sentence. -/
def description : Mode → String
  | disabled => "Deobfuscation disabled"
  | conservative => "Conservative - minimal renaming, fewer false positives"
  | balanced => "Default - balanced detection and preservation"
  | enhanced => "Enhanced - advanced pattern detection with word preservation"
  | aggressive => "Aggressive - maximum renaming, may have false positives"
  | auto => "Auto - automatically selects mode based on obfuscation analysis"

/-- Whether the mode renames at all. -/
def isEnabled (m : Mode) : Bool := m != disabled

/-- The mode that a word stands for. White space around the word and the case of ASCII letters do
not matter. -/
def ofName? (name : String) : Option Mode :=
  all.find? fun m => m.id.toList == (Text.trim name.toList).map Char.toLower

end Mode

end Unmask
