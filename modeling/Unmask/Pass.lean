import Unmask.Plan
import Unmask.Profile
/-!
# Passes

A pass walks the symbols of a program, asks the rules about each and names those that are to be
renamed. Symbols can also be renamed one by one before the walk; counters and taken names carry over.
-/

namespace Unmask

/-- A mode at work on a program. -/
structure Pass where
  set : SymbolSet
  /-- The mode in force, never `auto`. -/
  mode : Mode
  /-- The rules, unless the mode renames nothing. -/
  rules : Option Rules
  /-- The namer, unless the mode renames nothing. -/
  namer : Option Namer

namespace Pass

/-- A pass before its first symbol. -/
def start (set : SymbolSet) (m : Mode) (p : Profile) : Logged Pass := do
  let mode ← p.resolve m set
  pure { set, mode, rules := (p.rules? mode).map (Rules.prepare set), namer := p.namer? mode }

/-- Whether the symbol is to be renamed. -/
def decide (p : Pass) (s : Symbol) : Logged Bool :=
  match p.rules with
  | none => pure false
  | some rules => Rules.decide rules s

/-- The alias of the symbol, if it is to be renamed. -/
def rename (p : Pass) (s : Symbol) : Logged (Option String × Pass) := do
  let renames ← p.decide s
  match renames, p.namer with
  | true, some namer =>
    let (chosen, namer) ← namer.name p.set s
    Logged.write .debug ("rename " ++ s.text ++ " -> " ++ chosen)
    pure (some chosen, { p with namer := some namer })
  | _, _ => pure (none, p)

/-- The renames of some symbols, one after the other. -/
def renameAll (p : Pass) : List Symbol → Logged (List Entry × Pass)
  | [] => pure ([], p)
  | s :: rest => do
    let (chosen?, p) ← p.rename s
    let (entries, p) ← renameAll p rest
    pure (chosen?.toList.map (Entry.ofSymbol s) ++ entries, p)

/-- Where the counters stand. A pass that names nothing has none, and stands at zero. -/
def index (p : Pass) : Counters :=
  match p.namer with
  | none => Counters.zero
  | some namer => namer.counters

/-- Walks the whole program. -/
def run (p : Pass) : Logged Plan := do
  let (entries, after) ← p.renameAll (if p.mode.isEnabled then p.set.symbols else [])
  let plan : Plan := { mode := p.mode, entries, index := after.index }
  Logged.write .info (plan.summary p.set.classes.length)
  pure plan

/-- A pass that renames nothing, in one line. -/
def dormantText : String := "RenamePass \x7b mode: Disabled, condition: None, provider: None, .. \x7d"

end Pass

/-- The plan for a program. -/
def plan (set : SymbolSet) (m : Mode) (p : Profile) : Logged Plan := do
  let pass ← Pass.start set m p
  pass.run

/-- The plan for a program by settings that may have something wrong with them. -/
def planWith (set : SymbolSet) (m : Mode) (s : Settings) : Except Fault (Logged Plan) :=
  match Profile.ofSettings s with
  | .ok p => .ok (plan set m p)
  | .error fault => .error fault

end Unmask
