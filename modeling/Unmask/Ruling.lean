import Unmask.Log
import Unmask.Rule
/-!
# Rulings

A list of rules decides together whether a symbol is renamed. The rules are asked in order until one
forbids; without that the symbol is renamed if some rule forces it. Each rule that forces, and the one
that forbids, leaves a record.
-/

namespace Unmask

/-- The rules of a mode, in the order in which they are asked. -/
abbrev Rules := List Rule

namespace Rules

/-- The record of a rule that forces a rename. -/
def forcedRecord (s : Symbol) (r : Rule) : Record :=
  ⟨.trace, s.text ++ ": rename forced by " ++ r.id⟩

/-- The record of a rule that forbids a rename. -/
def forbiddenRecord (s : Symbol) (r : Rule) : Record :=
  ⟨.trace, s.text ++ ": rename forbidden by " ++ r.id⟩

/-- Asks the remaining rules, when `forced` says whether one before them forced the rename. -/
def ask (s : Symbol) (forced : Bool) : Rules → Logged Bool
  | [] => ⟨forced, []⟩
  | r :: rules =>
    match r.verdict s with
    | .abstain => ask s forced rules
    | .force =>
      let rest := ask s true rules
      ⟨rest.value, forcedRecord s r :: rest.log⟩
    | .forbid => ⟨false, [forbiddenRecord s r]⟩

/-- Whether the rules rename the symbol. -/
def decide (rules : Rules) (s : Symbol) : Logged Bool := ask s false rules

/-- The rules with what they have to know of the other symbols. -/
def prepare (set : SymbolSet) (rules : Rules) : Rules := rules.map (Rule.prepare set)

end Rules

end Unmask
