/-
  Batches: plain programs started one after the other and waited for together.
-/
import Interposition.Process.Executor

namespace Interposition.Batch

/-- Starts images in order.  The answer is a record for each that could not be run; any other
    failure ends the batch. -/
def start (vars : List (String × String)) : List ImageSpec → Supervised (List ProcessRecord)
  | [] => return []
  | image :: rest => do
    match ← Supervised.attempt (Executor.spawn .program image vars none) with
    | .ok _ => start vars rest
    | .error e =>
      if e.isLeaf then return .notStarted .program image.name :: (← start vars rest)
      else throw e

/-- Starts every image and waits for all of them.  One record per image: those that ran in the
    order they were met ended, then those that could not be run. -/
def run (config : RuntimeConfig) (images : List ImageSpec) : Supervised (List ProcessRecord) := do
  let notStarted ← start config.childEnvironment images
  return (← Executor.reapAll) ++ notStarted

end Interposition.Batch
