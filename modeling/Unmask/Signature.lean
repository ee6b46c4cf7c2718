import Unmask.Tool
/-!
# Signatures

A signature is a habit of renaming tools that shows in the names they leave. Each adds to the
confidence that a name was obfuscated, and some point to a tool. Two of them are habits of compilers
instead: they mark names as made up, and count for nothing.
-/

namespace Unmask

/-- A shape of names that tools or compilers leave behind. -/
inductive Signature where
  | shortLetters
  | confusableOnly
  | sequentialPrefix
  | extendedChars
  | longHex
  | underscoreFenced
  | alternatingAlnum
  | numericSuffix
  | lambdaSuffix
  deriving DecidableEq

namespace Signature

/-- Every signature, in the order in which they are tried. -/
def all : List Signature :=
  [shortLetters, confusableOnly, sequentialPrefix, extendedChars, longHex, underscoreFenced,
    alternatingAlnum, numericSuffix, lambdaSuffix]

/-- The word for a signature. -/
def id : Signature → String
  | shortLetters => "short-letters"
  | confusableOnly => "confusable-only"
  | sequentialPrefix => "sequential-prefix"
  | extendedChars => "extended-chars"
  | longHex => "long-hex"
  | underscoreFenced => "underscore-fenced"
  | alternatingAlnum => "alternating-alnum"
  | numericSuffix => "numeric-suffix"
  | lambdaSuffix => "lambda-suffix"

/-- What the signature adds to the confidence, in percent. -/
def weight : Signature → Nat
  | shortLetters => 35
  | confusableOnly => 50
  | sequentialPrefix => 30
  | extendedChars => 45
  | longHex => 40
  | underscoreFenced => 25
  | alternatingAlnum => 12
  | numericSuffix | lambdaSuffix => 0

/-- The tool that the signature points to. -/
def tool? : Signature → Option Tool
  | shortLetters => some .proguard
  | confusableOnly => some .allatori
  | sequentialPrefix => some .zelix
  | extendedChars => some .dexguard
  | longHex => some .hashBased
  | underscoreFenced | alternatingAlnum | numericSuffix | lambdaSuffix => none

/-- Whether the signature is a compiler's. -/
def isSynthetic : Signature → Bool
  | numericSuffix | lambdaSuffix => true
  | _ => false

end Signature

end Unmask
