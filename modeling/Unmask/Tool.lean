/-!
# Obfuscation tools

The tools whose handwriting in names is recognised.
-/

namespace Unmask

/-- A tool, or a family of tools, that renames symbols. -/
inductive Tool where
  | proguard
  | allatori
  | zelix
  | dexguard
  | hashBased
  deriving DecidableEq

namespace Tool

/-- Every tool. -/
def all : List Tool := [proguard, allatori, zelix, dexguard, hashBased]

/-- The word for a tool. -/
def id : Tool → String
  | proguard => "proguard"
  | allatori => "allatori"
  | zelix => "zelix"
  | dexguard => "dexguard"
  | hashBased => "hash-based"

/-- The name of a tool in reports. -/
def title : Tool → String
  | proguard => "ProGuard/R8"
  | allatori => "Allatori"
  | zelix => "Zelix KlassMaster"
  | dexguard => "DexGuard"
  | hashBased => "Hash-based obfuscator"

/-- The tool that a word stands for. -/
def ofId? (word : String) : Option Tool := all.find? (·.id == word)

end Tool

end Unmask
