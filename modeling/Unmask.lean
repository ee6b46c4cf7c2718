import Unmask.Access
import Unmask.Alias.Hint
import Unmask.Alias.Lineage
import Unmask.Alias.Namer
import Unmask.Alias.Registry
import Unmask.Alias.Role
import Unmask.Chain
import Unmask.Classifier
import Unmask.Counters
import Unmask.Decimal.Binary
import Unmask.Decimal.Fixed
import Unmask.Decimal.Shortest
import Unmask.Digest
import Unmask.Entropy
import Unmask.Fault
import Unmask.Kind
import Unmask.Log
import Unmask.Mode
import Unmask.Parameter
import Unmask.Pass
import Unmask.Plan
import Unmask.Profile
import Unmask.Proofs.Alphabet
import Unmask.Proofs.Naming
import Unmask.Proofs.Scopes
import Unmask.Proofs.Session
import Unmask.Proofs.Walk
import Unmask.Rule
import Unmask.Ruling
import Unmask.Settings
import Unmask.Shape
import Unmask.Signature
import Unmask.Survey
import Unmask.Symbol
import Unmask.SymbolSet
import Unmask.Text.Blank
import Unmask.Text.Case
import Unmask.Text.CodeSet
import Unmask.Text.Identifier
import Unmask.Text.Letter
import Unmask.Text.Numeral
import Unmask.Text.Part
import Unmask.Text.Pictograph
import Unmask.Tool
import Unmask.TypeRef
import Unmask.Vocabulary
import Unmask.Whitelist
import Unmask.Proofs.Protection
import Unmask.Proofs.Resuming
import Unmask.Proofs.Paths
import Unmask.Proofs.Interruption
import Unmask.Proofs.Reordering
import Unmask.Proofs.Numbering
import Unmask.Proofs.Collisions
import Unmask.Proofs.ClassTable
import Unmask.Proofs.Kinds
import Unmask.Proofs.Traces
import Unmask.Proofs.Records
import Unmask.Proofs.Identifiers
import Unmask.Proofs.Packages
import Unmask.Proofs.Ancestry
import Unmask.Proofs.Confidence
import Unmask.Proofs.Surveys
import Unmask.Proofs.Attribution
import Unmask.Proofs.Parameters
import Unmask.Proofs.Spelling
import Unmask.Proofs.Registration
import Unmask.Proofs.Counting
import Unmask.Proofs.Nesting
import Unmask.Proofs.Languages
