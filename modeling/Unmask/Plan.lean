import Unmask.Counters
import Unmask.Mode
import Unmask.Symbol
/-!
# Rename plans

What a run decided: the symbols to rename, in the order of the walk, each with its alias, and the
counters with which a later run can go on.
-/

namespace Unmask

/-- One rename. -/
structure Entry where
  kind : Kind
  path : String
  /-- The name before the rename. -/
  former : String
  /-- The name after the rename. -/
  renamed : String
  deriving DecidableEq

namespace Entry

/-- The rename of a symbol. -/
def ofSymbol (s : Symbol) (renamed : String) : Entry := ⟨s.kind, s.path, s.name, renamed⟩

/-- The rename in one line. -/
def text (e : Entry) : String := e.kind.id ++ " " ++ e.path ++ " -> " ++ e.renamed

end Entry

/-- The renames of a run. -/
structure Plan where
  /-- The mode that was in force, never `auto`. -/
  mode : Mode
  entries : List Entry
  /-- The counters after the run. -/
  index : Counters

namespace Plan

/-- The first rename of the symbol at a path. -/
def get? (p : Plan) (path : String) : Option Entry := p.entries.find? (·.path == path)

/-- The alias planned for the symbol at a path. -/
def alias? (p : Plan) (path : String) : Option String := (p.get? path).map (·.renamed)

/-- How many symbols of a kind are renamed. -/
def count (p : Plan) (k : Kind) : Nat := p.entries.countP (·.kind == k)

/-- The plan in several lines. -/
def text (p : Plan) : String :=
  "Rename plan (" ++ p.mode.id ++ "): " ++ toString (p.count .pkg) ++ " packages, " ++
  toString (p.count .cls) ++ " classes, " ++ toString (p.count .field) ++ " fields, " ++
  toString (p.count .method) ++ " methods\n" ++
  String.join (p.entries.map fun e => "  " ++ e.text ++ "\n")

/-- The plan in the one line that goes on record, for a program with that many classes. -/
def summary (p : Plan) (classCount : Nat) : String :=
  "Rename plan (" ++ p.mode.id ++ "): " ++ toString (p.count .cls) ++ " of " ++ toString classCount ++
  " classes renamed, " ++ toString p.entries.length ++ " renames total"

end Plan

end Unmask
