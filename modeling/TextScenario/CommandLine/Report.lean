import TextScenario.CommandLine.Output
import TextScenario.Execution.Json
/-!
Reports on runs of several files, for people and as a document.
-/

namespace TextScenario.CommandLine

/-- What is stamped on output from outside: times, run numbers and the build of the program. -/
structure Imprint where
  stamps : Stamps := {}
  /-- What people read for the duration of a case, if it is known. -/
  duration : Option String := none
  buildDate : String := "unknown"
  commit : String := "unknown"

structure FileReport where
  path : String
  report : RunReport

namespace FileReport

def toJson (stamps : Stamps) (file : FileReport) : Json :=
  .object (("file", .text file.path) :: file.report.fields stamps)

private def detailIndent : String := "       "

/-- What went wrong in a case: the failed step with all lines of its error, or the error alone. -/
def errorLines (case : CaseReport) : List String :=
  match case.error with
  | none => []
  | some error =>
    match case.failedStep?.bind fun index => (case.steps[index]?).map (index, ·) with
    | some (index, step) =>
      ("step " ++ toString (index + 1) ++ ": " ++ step.outcome.action) ::
        (Text.lines error.toList).map String.ofList
    | none => [error]

def caseLines (duration : Option String) (case : CaseReport) : List String :=
  let marker := if case.passed then "PASS" else "FAIL"
  let extent := toString case.steps.length ++ " steps" ++ (duration.map (", " ++ ·)).getD ""
  ("  " ++ marker ++ " " ++ case.name ++ " (" ++ extent ++ ")") ::
    (errorLines case).map (detailIndent ++ ·)

def lines (duration : Option String) (file : FileReport) : List String :=
  [file.path ++ " (" ++ file.report.workflow.text ++ ")"] ++
    file.report.cases.flatMap (caseLines duration) ++
    if file.report.cancelled then ["  run cancelled"] else []

end FileReport

def summaryLine (files : List FileReport) : String :=
  let overall (count : RunStats → Nat) : String :=
    toString (total (files.map fun file => count file.report.stats))
  "Summary: " ++ overall (·.passed) ++ " passed, " ++ overall (·.failed) ++ " failed, " ++
    overall (·.stepsRun) ++ " steps"

def reportText (imprint : Imprint) (format : OutputFormat) (files : List FileReport) : String :=
  match format with
  | .human =>
    textOfLines (files.flatMap (FileReport.lines imprint.duration) ++ [summaryLine files])
  | _ => format.document (.array (files.map (FileReport.toJson imprint.stamps)))

end TextScenario.CommandLine
