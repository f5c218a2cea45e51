import TextScenario.Execution.Run
import TextScenario.Translation.Json
/-!
Reports as JSON. Durations and run numbers are not part of a report; where they are wanted they are
written as given.
-/

namespace TextScenario

/-- What is written for durations and for the number of a run; without it the field is left out. -/
structure Stamps where
  duration : Option Json := none
  runNumber : Option Json := none

namespace Stamps

def durationField (stamps : Stamps) : List (String × Json) :=
  (stamps.duration.map fun duration => ("duration_ms", duration)).toList

def runField (stamps : Stamps) : List (String × Json) :=
  (stamps.runNumber.map fun number => ("run_id", number)).toList

end Stamps

def CompiledStep.toJson (step : CompiledStep) : Json :=
  .object
    [("action", .text step.action),
     ("translation", step.translation.toJson),
     ("workflow", .text step.workflow.text)]

def Outcome.fields (stamps : Stamps) (outcome : Outcome) : List (String × Json) :=
  [("success", .bool outcome.success),
   ("action", .text outcome.action),
   ("type", .optional ActionKind.toJson outcome.kind),
   ("code", .optional .text outcome.code),
   ("result", outcome.result.getD .null),
   ("summary", .optional .text outcome.summary),
   ("error", .optional .text outcome.error)] ++
  stamps.durationField ++ [("workflow", .text outcome.workflow.text)]

def Outcome.toJson (stamps : Stamps) (outcome : Outcome) : Json :=
  .object (outcome.fields stamps)

def ExecutionRecord.toJson (record : ExecutionRecord) : Json :=
  .object
    [("action", .text record.action),
     ("type", .optional ActionKind.toJson record.kind),
     ("success", .bool record.success),
     ("error", .optional .text record.error),
     ("workflow", .text record.workflow.text)]

def StepReport.toJson (stamps : Stamps) (report : StepReport) : Json :=
  .object
    ([("comment", .optional .text report.comment), ("is_multiline", .bool report.isMultiline)] ++
      report.outcome.fields stamps)

def CaseReport.toJson (stamps : Stamps) (report : CaseReport) : Json :=
  .object
    ([("name", .text report.name),
      ("comments", .texts report.comments),
      ("steps", .array (report.steps.map (StepReport.toJson stamps))),
      ("passed", .bool report.passed),
      ("error", .optional .text report.error)] ++
     stamps.durationField ++ [("multiline_steps", .ofNat report.multilineSteps)])

def RunStats.toJson (stats : RunStats) : Json :=
  .object
    [("cases", .ofNat stats.cases),
     ("passed", .ofNat stats.passed),
     ("failed", .ofNat stats.failed),
     ("steps_run", .ofNat stats.stepsRun),
     ("multiline_steps", .ofNat stats.multilineSteps)]

def RunReport.fields (stamps : Stamps) (report : RunReport) : List (String × Json) :=
  stamps.runField ++
    [("workflow", .text report.workflow.text),
     ("cases", .array (report.cases.map (CaseReport.toJson stamps))),
     ("stats", report.stats.toJson),
     ("cancelled", .bool report.cancelled)]

def RunReport.toJson (stamps : Stamps) (report : RunReport) : Json :=
  .object (report.fields stamps)

end TextScenario
