import Unmask.Decimal.Fixed
import Unmask.Entropy
import Unmask.Shape
import Unmask.Signature
import Unmask.Text.Letter
/-!
# Classifying names

A `Classifier` says of a single name how much it looks obfuscated, and by which tool. It has three
settings: when entropy counts as high, from which length on entropy says anything, and which
characters are easily mistaken for one another.

- `signatures` are the shapes that apply, in library order; `tool?` is the first tool among theirs.
- `confidence` adds points for shortness, for each signature and for entropy, up to one hundred (`score`).
- `isStructural` knows shapes that need no tool behind them.
- `isLikelyObfuscated` is the verdict that counts in surveys.
-/

namespace Unmask

/-- The settings by which names are judged. -/
structure Classifier where
  /-- Entropy above this is high. -/
  threshold : Float := 3.5
  /-- Entropy of shorter names says nothing. -/
  minLength : Nat := 3
  /-- The characters that are easily mistaken for one another. -/
  confusable : List Char := ['l', 'I', '1', '0', 'O', 'o', '_']

/-- What a classifier says of a name. -/
structure Classification where
  tool : Option Tool
  confidence : Nat
  isHighEntropy : Bool
  entropy : Float
  signatures : List Signature

namespace Classifier

/-- Whether the name is made of confusable characters alone. -/
def isConfusable (k : Classifier) (name : String) : Bool :=
  !name.toList.isEmpty && name.toList.all k.confusable.contains

/-- Whether entropy is high, or nothing where the name is too short to tell. -/
def isHighEntropy? (k : Classifier) (name : String) : Option Bool :=
  if name.length < k.minLength then none else some (k.threshold < entropy name)

/-- Whether the shape of the name alone gives it away: a single character, two letters, one character
over and over, confusable characters alone, or the look of encoded data. -/
def isStructural (k : Classifier) (name : String) : Bool :=
  match name.toList with
  | [] => false
  | [_] => true
  | [a, b] => Text.isLetter a && Text.isLetter b
  | s => Shape.isRepeated s || s.all k.confusable.contains || Shape.looksEncoded s

/-- Whether the name bears a signature. Confusable characters in the shape of a sequential prefix
count as the prefix alone. -/
def bears (k : Classifier) (name : String) : Signature → Bool
  | .shortLetters => Shape.isShortLetters name.toList
  | .confusableOnly => !Shape.isSequentialPrefix name.toList && k.isConfusable name
  | .sequentialPrefix => Shape.isSequentialPrefix name.toList
  | .extendedChars => name.toList.any Shape.isExtended
  | .longHex => Shape.isLongHex name.toList
  | .underscoreFenced => Shape.isUnderscoreFenced name.toList
  | .alternatingAlnum => Shape.isAlternating name.toList
  | .numericSuffix => Shape.hasNumericSuffix name.toList
  | .lambdaSuffix => Shape.hasLambdaMark name.toList

/-- The signatures that the name bears. -/
def signatures (k : Classifier) (name : String) : List Signature := Signature.all.filter (k.bears name)

/-- The tool that most likely made the name. -/
def tool? (k : Classifier) (name : String) : Option Tool := (k.signatures name).findSome? Signature.tool?

/-- Whether the name bears a tool's signature. -/
def matchesPattern (k : Classifier) (name : String) : Bool := (k.signatures name).any (!·.isSynthetic)

/-- The points for the length of a name. -/
def lengthPoints : Nat → Nat
  | 1 => 40
  | 2 => 30
  | 3 | 4 => 15
  | _ => 0

/-- The points for the signatures of a name. -/
def signaturePoints (signatures : List Signature) : Nat := signatures.foldr (·.weight + ·) 0

/-- The points for the entropy of a name. -/
def entropyPoints (e : Float) : Nat := if 4.0 < e then 20 else if 3.5 < e then 10 else 0

/-- How sure it is that a name of those signatures and that entropy was obfuscated, in percent. The empty
name never was. -/
def score (name : String) (signatures : List Signature) (e : Float) : Nat :=
  if name.length = 0 then 0
  else min 100 (lengthPoints name.length + signaturePoints signatures + entropyPoints e)

/-- How sure it is that the name was obfuscated, in percent. -/
def confidence (k : Classifier) (name : String) : Nat := score name (k.signatures name) (entropy name)

/-- Everything that the classifier says of a name. -/
def classify (k : Classifier) (name : String) : Classification where
  tool := k.tool? name
  confidence := k.confidence name
  isHighEntropy := (k.isHighEntropy? name).getD false
  entropy := entropy name
  signatures := k.signatures name

/-- Whether the name counts as obfuscated. -/
def isLikelyObfuscated (k : Classifier) (name : String) : Bool :=
  !name.toList.isEmpty &&
    (50 ≤ k.confidence name || (4.0 < entropy name && 3 < name.length) || k.isStructural name)

end Classifier

namespace Classification

/-- Whether the confidence reaches a threshold. -/
def meets (r : Classification) (threshold : Nat) : Bool := threshold ≤ r.confidence

/-- Whether obfuscation is more likely than not. -/
def isConfident (r : Classification) : Bool := r.meets 50

/-- Whether a compiler made the name up. -/
def isSynthetic (r : Classification) : Bool := r.signatures.any Signature.isSynthetic

/-- The classification in one line. -/
def text (r : Classification) : String :=
  (match r.tool with
    | some tool => tool.title
    | none => "unattributed") ++
  " (" ++ toString r.confidence ++ "%, entropy " ++ Decimal.fixed 2 r.entropy ++ ")"

end Classification

end Unmask
