import Unmask.Classifier
import Unmask.Log
import Unmask.Mode
import Unmask.SymbolSet
/-!
# Surveys

A survey counts how many names of a program look obfuscated, finds the tool that most class names
point to, and recommends a mode.

Every class name that looks obfuscated and points to a tool is a vote for it. The tool with the most
votes wins, and of several the one that was voted for first.
-/

namespace Unmask

/-- How many names of one kind look obfuscated. -/
structure Share where
  total : Nat := 0
  obfuscated : Nat := 0
  /-- The share in percent. -/
  rate : Float := 0.0

namespace Share

/-- A part of a whole in percent; of nothing it is zero. -/
def percent (part whole : Nat) : Float :=
  if whole = 0 then 0.0 else Float.ofNat part / Float.ofNat whole * 100.0

/-- The share with its rate. -/
def ofCounts (obfuscated total : Nat) : Share := ⟨total, obfuscated, percent obfuscated total⟩

/-- The share of the names that a classifier finds obfuscated. -/
def ofNames (k : Classifier) (names : List String) : Share :=
  ofCounts (names.countP k.isLikelyObfuscated) names.length

end Share

/-- What a survey found. -/
structure Survey where
  classes : Share := {}
  methods : Share := {}
  fields : Share := {}
  /-- The share of all names together, in percent. -/
  overallRate : Float := 0.0
  tool : Option Tool := none

namespace Survey

/-! ## The vote -/

/-- The votes for tools, in the order of the classes. -/
def votes (k : Classifier) (set : SymbolSet) : List Tool :=
  set.classes.filterMap fun c => if k.isLikelyObfuscated c.name then k.tool? c.name else none

/-- How many votes each tool has, in the order of first votes. -/
def tally (votes : List Tool) : List (Tool × Nat) := votes.eraseDups.map fun t => (t, votes.count t)

/-- Holds one more tool against the leader, who is beaten only by more votes. A tie is put on
record. -/
def challenge (leader : Option (Tool × Nat)) (entry : Tool × Nat) : Logged (Option (Tool × Nat)) :=
  match leader with
  | none => pure (some entry)
  | some (tool, best) =>
    if best < entry.2 then pure (some entry)
    else if entry.2 = best then do
      Logged.write .debug
        ("tool vote tie between " ++ entry.1.id ++ " and earlier candidate at " ++ toString entry.2 ++
          " votes")
      pure (some (tool, best))
    else pure (some (tool, best))

/-- The tool with the most votes, of several the one that was voted for first. -/
def plurality (votes : List Tool) : Logged (Option Tool) := do
  let leader ← (tally votes).foldlM challenge none
  pure (leader.map (·.1))

/-! ## The counts -/

/-- The names of methods that count: constructors have none of their own, and synthetic methods are
named by the compiler. -/
def methodNames (c : ClassDecl) : List String :=
  (c.methods.filter fun m => !(m.isConstructor || m.access.isSynthetic)).map (·.name)

/-- Surveys a program. -/
def ofSet (k : Classifier) (set : SymbolSet) : Logged Survey := do
  let classes := Share.ofNames k (set.classes.map (·.name))
  let methods := Share.ofNames k (set.classes.flatMap methodNames)
  let fields := Share.ofNames k (set.classes.flatMap fun c => c.fields.map (·.name))
  let tool ← plurality (votes k set)
  pure {
    classes, methods, fields, tool
    overallRate :=
      Share.percent (classes.obfuscated + methods.obfuscated + fields.obfuscated)
        (classes.total + methods.total + fields.total) }

/-! ## What follows from a survey -/

/-- More than half of the names. -/
def isHeavy (s : Survey) : Bool := 50.0 < s.overallRate

/-- More than a tenth, and at most half of the names. -/
def isLight (s : Survey) : Bool := 10.0 < s.overallRate && s.overallRate ≤ 50.0

/-- At most a tenth of the names. -/
def isMinimal (s : Survey) : Bool := s.overallRate ≤ 10.0

/-- The mode that suits the program. -/
def recommended (s : Survey) : Mode :=
  if 70.0 < s.overallRate then .aggressive
  else if 30.0 < s.overallRate then .enhanced
  else if 10.0 < s.overallRate then .balanced
  else .conservative

/-! ## Reports -/

/-- The shares with their headings. -/
def sections (s : Survey) : List (String × Share) :=
  [("Classes", s.classes), ("Methods", s.methods), ("Fields", s.fields)]

/-- A rate with one digit after the point and the percent sign. -/
def percentText (rate : Float) : String := Decimal.fixed 1 rate ++ "%"

/-- The advice at the end of a report. -/
def advice : Mode → String
  | .conservative => "Use CONSERVATIVE deobfuscation mode or disable"
  | mode => "Use " ++ String.ofList (mode.id.toList.map Char.toUpper) ++ " deobfuscation mode"

/-- The survey as a text of several lines. -/
def report (s : Survey) : String :=
  "=== Deobfuscation Analysis Report ===\n\n" ++
  (match s.tool with
    | some tool => "Detected Obfuscator: " ++ tool.title ++ "\n\n"
    | none => "") ++
  String.join (s.sections.map fun (title, share) =>
    title ++ ":\n  Total: " ++ toString share.total ++ "\n  Obfuscated: " ++
      toString share.obfuscated ++ " (" ++ percentText share.rate ++ ")\n\n") ++
  "Overall Obfuscation Rate: " ++ percentText s.overallRate ++ "\n\n" ++
  "Recommendation: " ++ advice s.recommended ++ "\n"

/-- The survey as records. -/
def records (s : Survey) : List Record :=
  ["Deobfuscation analysis:"].map (Record.mk .info) ++
  (s.tool.toList.map fun tool => ⟨.info, "  Detected obfuscator: " ++ tool.title⟩) ++
  (s.sections.map fun (title, share) =>
    ⟨.info, "  " ++ title ++ ": " ++ toString share.total ++ " total, " ++ toString share.obfuscated ++
      " obfuscated (" ++ percentText share.rate ++ ")"⟩) ++
  [⟨.info, "  Overall obfuscation rate: " ++ percentText s.overallRate⟩]

end Survey

end Unmask
