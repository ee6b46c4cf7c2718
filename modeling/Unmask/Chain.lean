import Unmask.Pass
/-!
# Chains of runs

A large program is renamed in several runs. Each run after the first takes up the counters where the
run before it left them, so that numbers are not given out twice. The chain ends at the first run that
has something wrong with it.
-/

namespace Unmask

/-- What one run of a chain is about. -/
structure Job where
  set : SymbolSet
  /-- The word for the mode. -/
  modeName : String := Mode.standard.id
  settings : Settings := {}

namespace Job

/-- The settings of the job, with counters that start where they were left. -/
def seeded (job : Job) (seed : Option Counters) : Settings :=
  match seed with
  | none => job.settings
  | some index => { job.settings with initialIndex := index }

/-- Runs the job. -/
def run (job : Job) (seed : Option Counters) : Except Fault (Logged Plan) :=
  match Mode.read job.modeName with
  | .ok mode => planWith job.set mode (job.seeded seed)
  | .error fault => .error fault

end Job

/-- Runs jobs one after the other. Records of the runs before a fault are kept. -/
def chain (seed : Option Counters) : List Job → Logged (Except Fault (List Plan))
  | [] => pure (.ok [])
  | job :: rest =>
    match job.run seed with
    | .error fault => pure (.error fault)
    | .ok outcome => do
      let plan ← outcome
      let plans ← chain (some plan.index) rest
      pure (plans.map (plan :: ·))

end Unmask
