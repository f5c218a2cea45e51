import TextScenario.Execution.Step
import TextScenario.Scenario.Document
/-!
Running scenarios. A case halts at its first failing step, and later cases still run. Whether the
run is cancelled is looked at before every case and before every step.
-/

namespace TextScenario

structure StepReport where
  comment : Option String
  isMultiline : Bool
  outcome : Outcome

/-- A case has an error if a step failed or the run was cancelled before all steps ran. -/
structure CaseReport where
  name : String
  comments : List String
  steps : List StepReport
  error : Option String

namespace CaseReport

def passed (report : CaseReport) : Bool :=
  report.error.isNone

def failedStep? (report : CaseReport) : Option Nat :=
  report.steps.findIdx? fun step => !step.outcome.success

def multilineSteps (report : CaseReport) : Nat :=
  (report.steps.filter (·.isMultiline)).length

end CaseReport

structure RunStats where
  cases : Nat
  passed : Nat
  failed : Nat
  stepsRun : Nat
  multilineSteps : Nat
  deriving DecidableEq, Repr

structure RunReport where
  workflow : WorkflowId
  cases : List CaseReport
  cancelled : Bool

namespace RunReport

def stats (report : RunReport) : RunStats where
  cases := report.cases.length
  passed := (report.cases.filter CaseReport.passed).length
  failed := (report.cases.filter (!·.passed)).length
  stepsRun := total (report.cases.map (·.steps.length))
  multilineSteps := total (report.cases.map CaseReport.multilineSteps)

def passed (report : RunReport) : Bool :=
  !report.cancelled && report.cases.all CaseReport.passed

end RunReport

/-- Runs scenarios; the state of the sessions shows whether the run is cancelled. It may change by
itself before every look at it, so that a run can be cancelled at any moment. -/
structure RunContext (σ : Type) extends ExecutionContext σ where
  cancelled : σ → Bool := fun _ => false
  elapse : σ → σ := id

namespace Executor

variable {σ : Type}

def cancellationText (place : Nat) : String :=
  "cancelled before step " ++ toString place

/-- Lets time pass until the next look at whether the run is cancelled. -/
def elapse (context : RunContext σ) (executor : Executor σ) : Executor σ :=
  { executor with state := context.elapse executor.state }

/-- Runs steps from a place on, which is counted from one. The last result is the error that ended
the case early. -/
def runSteps (context : RunContext σ) (workflow : WorkflowId) (executor : Executor σ)
    (place : Nat) : List Step → List StepReport × Option String × Executor σ
  | [] => ([], none, executor)
  | step :: rest =>
    let executor := executor.elapse context
    if context.cancelled executor.state then ([], some (cancellationText place), executor)
    else
      let (outcome, executor) := executor.executeParsed context.toExecutionContext step.action workflow
      let report : StepReport := { comment := step.comment, isMultiline := step.isMultiline, outcome }
      if outcome.success then
        let (reports, error, executor) := executor.runSteps context workflow (place + 1) rest
        (report :: reports, error, executor)
      else ([report], outcome.error, executor)

def runCase (context : RunContext σ) (workflow : WorkflowId) (executor : Executor σ) (case : Case) :
    CaseReport × Executor σ :=
  let (steps, error, executor) := executor.runSteps context workflow 1 case.steps
  ({ name := case.name, comments := case.comments, steps, error }, executor)

/-- Runs cases, and says whether it was cancelled before one of them. -/
def runCases (context : RunContext σ) (workflow : WorkflowId) (executor : Executor σ) :
    List Case → List CaseReport × Bool × Executor σ
  | [] => ([], false, executor)
  | case :: rest =>
    let executor := executor.elapse context
    if context.cancelled executor.state then ([], true, executor)
    else
      let (report, executor) := executor.runCase context workflow case
      let (reports, stopped, executor) := executor.runCases context workflow rest
      (report :: reports, stopped, executor)

def runDocument (context : RunContext σ) (executor : Executor σ) (document : Document) :
    RunReport × Executor σ :=
  let (cases, stopped, executor) := executor.runCases context document.workflow document.cases
  let executor := executor.elapse context
  let cancelled := stopped || context.cancelled executor.state
  ({ workflow := document.workflow, cases, cancelled }, executor)

end Executor

end TextScenario
