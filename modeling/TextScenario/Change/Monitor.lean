import TextScenario.Change.Detector
/-!
Watching scenarios. At every poll the monitor looks for versions of files that were neither marked
nor delivered before; after a quiet period it delivers them in a batch, and a batch that ran is
marked.
-/

namespace TextScenario

structure Monitor where
  detector : ChangeDetector
  /-- The version of each file that was delivered last. -/
  delivered : List (String × String) := []
  deriving DecidableEq, Repr, Inhabited

namespace Monitor

def fresh (monitor : Monitor) (files : FileSystem) : Except FileFailure (List ScenarioChange) := do
  let changes ← monitor.detector.changes files
  .ok (changes.filter fun change => monitor.delivered.lookup change.file != some change.digest)

def deliver (monitor : Monitor) (batch : List ScenarioChange) : Monitor :=
  { monitor with
    delivered := batch.foldl
      (fun delivered change =>
        (change.file, change.digest) :: delivered.filter (·.1 != change.file))
      monitor.delivered }

/-- Marks a batch that ran; any other is left as it is. -/
def finish (monitor : Monitor) (files : FileSystem) (batch : List ScenarioChange) (ran : Bool) :
    Except FileFailure Unit × Monitor × FileSystem :=
  if ran then
    let (result, detector, files) := monitor.detector.mark files (batch.map (·.file))
    (result, { monitor with detector }, files)
  else (.ok (), monitor, files)

end Monitor

end TextScenario
