import Unmask.Classifier
import Unmask.Counters
import Unmask.Fault
import Unmask.Text.Identifier
/-!
# Settings

Everything that a user may choose about a run, with the choices of those who do not, and two presets.
`fault?` finds the first thing that is wrong with settings, and `Valid` settings have none.
-/

namespace Unmask

/-- The library classes that stay as they are unless told otherwise. -/
def defaultWhitelist : List String := [
  "android.support.v4.*",
  "android.support.v7.*",
  "android.support.v4.os.*",
  "android.support.annotation.Px",
  "androidx.core.os.*",
  "androidx.annotation.Px"]

/-- The choices of a run. -/
structure Settings where
  /-- Shorter names are renamed. -/
  minLength : Nat := 3
  /-- Longer names are renamed, and their hints are digests. -/
  maxLength : Nat := 64
  /-- Classes by qualified name, and packages by qualified name and `.*`, that stay as they are. -/
  whitelist : List String := defaultWhitelist
  entropyThreshold : Float := 3.5
  entropyMinLength : Nat := 3
  confusableChars : String := "lI10Oo_"
  /-- Whether aliases tell the role of a symbol where the mode allows it. -/
  descriptiveNames : Bool := true
  /-- Whether descriptive aliases keep a hint of the obfuscated name. -/
  keepHint : Bool := true
  rolePrefixes : Bool := true
  frameworkBases : Bool := true
  semanticTags : Bool := true
  /-- What stands between an alias that is taken and the number that tells it apart. -/
  separator : String := "_"
  /-- Where the counters start. -/
  initialIndex : Counters := Counters.zero

namespace Settings

/-- For fewer false positives. -/
def conservative : Settings where
  minLength := 2
  entropyThreshold := 4.0
  entropyMinLength := 4

/-- For more renames. -/
def aggressive : Settings where
  entropyThreshold := 3.0
  entropyMinLength := 2
  keepHint := false

/-- The first thing that is wrong with the settings. -/
def fault? (s : Settings) : Option SettingsFault :=
  if s.maxLength = 0 then some .zeroMaxLength
  else if s.maxLength < s.minLength then some (.minAboveMax s.minLength s.maxLength)
  else if !s.entropyThreshold.isFinite || s.entropyThreshold < 0.0 then
    some (.badThreshold s.entropyThreshold)
  else if s.separator.toList.isEmpty then some .emptySeparator
  else if !s.separator.toList.all Text.isPlain then some (.badSeparator s.separator)
  else none

/-- Whether nothing is wrong with the settings. -/
def Valid (s : Settings) : Prop := s.fault? = none

instance (s : Settings) : Decidable s.Valid := inferInstanceAs (Decidable (s.fault? = none))

/-- The classifier of the settings. -/
def classifier (s : Settings) : Classifier where
  threshold := s.entropyThreshold
  minLength := s.entropyMinLength
  confusable := s.confusableChars.toList

theorem valid_default : Valid {} := by decide +kernel

theorem valid_conservative : Valid conservative := by decide +kernel

theorem valid_aggressive : Valid aggressive := by decide +kernel

end Settings

end Unmask
