import Unmask.SymbolSet
import Unmask.Classifier
import Unmask.Text.Identifier
import Unmask.Vocabulary
import Unmask.Whitelist
/-!
# Rules

A rule looks at one symbol and says that it must be renamed, that it must not, or nothing. Five rules
protect symbols (`base`, `whitelist`, `topLevelDomain`, `resourceClass`, `commonWords`) and never force
a rename; the other four force renames and never forbid one.

Only `collision` has to know the other symbols: it holds the names of all classes, which `prepare`
puts into it.
-/

namespace Unmask

/-- What a rule says of a symbol. -/
inductive Verdict where
  | abstain
  | force
  | forbid
  deriving DecidableEq

namespace Verdict

/-- The word for a verdict. -/
def id : Verdict → String
  | abstain => "none"
  | force => "force"
  | forbid => "forbid"

/-- Forbids where the condition holds. -/
def forbidIf (b : Bool) : Verdict := if b then forbid else abstain

/-- Forces where the condition holds. -/
def forceIf (b : Bool) : Verdict := if b then force else abstain

@[simp] theorem forbidIf_eq_forbid_iff (b : Bool) : forbidIf b = forbid ↔ b = true := by
  cases b <;> simp [forbidIf]

@[simp] theorem forbidIf_ne_force (b : Bool) : forbidIf b ≠ force := by
  cases b <;> simp [forbidIf]

@[simp] theorem forceIf_ne_forbid (b : Bool) : forceIf b ≠ forbid := by
  cases b <;> simp [forceIf]

end Verdict

/-- A reason to rename a symbol, or to leave it alone. -/
inductive Rule where
  /-- Protects what is flagged, has been renamed already, or is called by the machine alone. -/
  | base
  /-- Protects what a whitelist lists. -/
  | whitelist (entries : Whitelist)
  /-- Protects outermost packages named after a top-level domain. -/
  | topLevelDomain
  /-- Protects the generated class `R`, what is nested in it, and the fields of these. -/
  | resourceClass
  /-- Forces packages apart from the classes of those names. -/
  | collision (classNames : List String)
  /-- Protects names out of the vocabulary of programmers. -/
  | commonWords
  /-- Forces names that bear a tool's signature. -/
  | pattern (classifier : Classifier)
  /-- Forces names of high entropy. -/
  | entropy (classifier : Classifier)
  /-- Forces names that are too short, too long, or no identifiers. -/
  | length (min max : Nat)

namespace Rule

/-- The word for a rule. -/
def id : Rule → String
  | base => "base"
  | whitelist _ => "whitelist"
  | topLevelDomain => "tld-exclusion"
  | resourceClass => "android-r-class"
  | collision _ => "collision-avoidance"
  | commonWords => "common-words"
  | pattern _ => "obfuscator-pattern"
  | entropy _ => "entropy"
  | length _ _ => "length"

/-- A rule in a few words. -/
def label : Rule → String
  | base => "Base condition (skip flagged/renamed)"
  | whitelist _ => "Whitelist preservation"
  | topLevelDomain => "TLD exclusion"
  | resourceClass => "Android R class exclusion"
  | collision _ => "Name collision avoidance"
  | commonWords => "Common words preservation"
  | pattern _ => "Obfuscator pattern detection"
  | entropy _ => "Entropy-based detection"
  | length _ _ => "Length-based detection"

/-! ## What the rules look at -/

/-- The domains after which outermost packages are named. -/
def topLevelDomains : List String := [
  "com", "org", "net", "edu", "gov", "mil", "int", "info", "biz", "name", "pro", "app", "dev",
  "io", "co", "me", "tv", "cc", "ai", "xyz", "online", "site", "tech", "top", "eu", "uk", "de",
  "fr", "it", "es", "nl", "be", "ch", "at", "se", "no", "fi", "dk", "pl", "cz", "sk", "hu", "ro",
  "bg", "gr", "pt", "ie", "ru", "ua", "by", "kz", "cn", "jp", "kr", "tw", "hk", "sg", "in", "id",
  "th", "vn", "my", "ph", "au", "nz", "ca", "us", "mx", "br", "ar", "cl", "za", "tr", "il", "ir"]

/-- Whether the symbol is flagged, has been renamed already, or is called by the machine alone. -/
def isProtected (s : Symbol) : Bool := s.isKept || s.given.isSome || s.isInitializer

/-- Whether the symbol is an outermost package named after a top-level domain. -/
def isTopLevelDomain : Symbol → Bool
  | .pkg p => p.isRoot && topLevelDomains.contains p.name
  | _ => false

/-- Whether a class is the generated class `R` or nested in it. -/
def isResourceClass (c : ClassDecl) : Bool := (Text.pieces '$' c.localName.toList).contains ['R']

/-- Whether the symbol is, or is a field of, a class of generated resources. -/
def isResource : Symbol → Bool
  | .cls c | .field _ c => isResourceClass c
  | .pkg _ | .method _ _ => false

/-- The name that a class goes by: the one it was given, or else its own. -/
def classNameInUse (c : ClassDecl) : String := c.given.getD c.name

/-- Whether the symbol is a package that goes by one of the names. -/
def collides (classNames : List String) : Symbol → Bool
  | .pkg p => classNames.contains (p.given.getD p.name)
  | _ => false

/-- Whether the name says something to a programmer. Camel case counts for classes only, and of
packages only common words. -/
def isMeaningful : Symbol → Bool
  | .pkg p => Vocabulary.isCommonTerm p.name
  | .cls c =>
    Vocabulary.isCommonTerm c.name || Vocabulary.hasCommonPattern c.name || Vocabulary.isCamelCase c.name
  | .field f _ => Vocabulary.isCommonTerm f.name || Vocabulary.hasCommonPattern f.name
  | .method m _ => Vocabulary.isCommonTerm m.name || Vocabulary.hasCommonPattern m.name

/-- Whether a compiler made the symbol up, so that its name tells nothing about a tool. -/
def isCompilerMade : Symbol → Bool
  | .pkg _ => false
  | .cls c => Shape.hasLambdaMark c.fullName.toList || Shape.hasNumericSuffix c.fullName.toList
  | .field f _ => Shape.hasNumericSuffix f.name.toList
  | .method m _ => m.isInitializer || Shape.hasNumericSuffix m.name.toList

/-- Whether the name is out of bounds or no identifier. The machine's own methods are left alone. -/
def isUnwieldy (min max : Nat) (s : Symbol) : Bool :=
  !s.isInitializer && (s.name.length < min || max < s.name.length || !Text.isIdentifier s.name)

/-! ## What the rules say -/

/-- What the rule says of a symbol. -/
def verdict (r : Rule) (s : Symbol) : Verdict :=
  match r with
  | base => .forbidIf (isProtected s)
  | whitelist w => .forbidIf (w.lists s)
  | topLevelDomain => .forbidIf (isTopLevelDomain s)
  | resourceClass => .forbidIf (isResource s)
  | collision classNames => .forceIf (collides classNames s)
  | commonWords => .forbidIf (isMeaningful s)
  | pattern k => .forceIf (!isCompilerMade s && k.matchesPattern s.name)
  | entropy k => .forceIf (k.isHighEntropy? s.name == some true)
  | length min max => .forceIf (isUnwieldy min max s)

/-- The rule with what it has to know of the other symbols. -/
def prepare (set : SymbolSet) : Rule → Rule
  | collision _ => collision (set.classes.map classNameInUse)
  | r => r

end Rule

end Unmask
