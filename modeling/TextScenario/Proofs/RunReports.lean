import Mathlib.Data.List.Forall2
import TextScenario.Execution.Run

/-! Reports of runs. A report speaks of a prefix of the cases and, in each case, of a prefix of its
steps; the history of the executor and the counts of the report agree with it. This holds for any
sessions and at whatever moment a run is cancelled. -/

namespace TextScenario

variable {σ : Type}

namespace Executor

private theorem outcome_error (step : CompiledStep) (result : Except StepError Json) :
    (step.outcome result).success = (step.outcome result).error.isNone := by
  cases result <;> rfl

theorem finish_records (context : ExecutionContext σ) (executor : Executor σ) (action : String)
    (workflow : WorkflowId) (compiled : Except MissingParameters CompiledStep) :
    let (outcome, after) := executor.finish context action workflow compiled
    after.history = executor.history ++ [outcome.record] ∧ after.translator = executor.translator ∧
      outcome.success = outcome.error.isNone := by
  cases compiled with
  | ok step => exact ⟨rfl, rfl, outcome_error step _⟩
  | error error => exact ⟨rfl, rfl, rfl⟩

/-- A step is recorded once, and its outcome has an error exactly if it failed. -/
theorem executeParsed_records (context : ExecutionContext σ) (executor : Executor σ) (action : String)
    (workflow : WorkflowId) :
    let (outcome, after) := executor.executeParsed context action workflow
    after.history = executor.history ++ [outcome.record] ∧ after.translator = executor.translator ∧
      outcome.success = outcome.error.isNone :=
  finish_records context executor action workflow _

end Executor

/-- The report of a step that was sent, by an executor with the given rules. -/
structure StepReport.Of (context : RunContext σ) (translator : Translator) (workflow : WorkflowId)
    (step : Step) (report : StepReport) : Prop where
  comment : report.comment = step.comment
  isMultiline : report.isMultiline = step.isMultiline
  executed : ∃ before : Executor σ, before.translator = translator ∧
    (before.executeParsed context.toExecutionContext step.action workflow).1 = report.outcome

/-- Only the last of the reported steps may have failed. A case without an error ran to its end, and
the error of a step that failed is the error of its case. -/
structure CaseReport.Of (context : RunContext σ) (translator : Translator) (workflow : WorkflowId)
    (case : Case) (report : CaseReport) : Prop where
  name : report.name = case.name
  comments : report.comments = case.comments
  steps : List.Forall₂ (StepReport.Of context translator workflow)
    (case.steps.take report.steps.length) report.steps
  earlier : ∀ step ∈ report.steps.dropLast, step.outcome.success = true
  passed_iff : report.passed = true ↔
    report.steps.length = case.steps.length ∧ ∀ step ∈ report.steps, step.outcome.success = true
  failed_iff : report.failedStep?.isSome = true ↔ ∃ step ∈ report.steps, step.outcome.success = false
  failed : ∀ index, report.failedStep? = some index → index + 1 = report.steps.length ∧
    ∃ step, report.steps[index]? = some step ∧ report.error = step.outcome.error

namespace Executor
variable (context : RunContext σ) (workflow : WorkflowId)

/-- What running the steps of a case leaves behind. -/
structure StepsRun (before after : Executor σ) (steps : List Step) (reports : List StepReport)
    (error : Option String) : Prop where
  ran : List.Forall₂ (StepReport.Of context before.translator workflow) (steps.take reports.length) reports
  earlier : ∀ report ∈ reports.dropLast, report.outcome.success = true
  last : ∀ report ∈ reports.getLast?, report.outcome.success = false → error = report.outcome.error
  complete : error = none ↔ reports.length = steps.length ∧ ∀ report ∈ reports, report.outcome.success = true
  history : after.history = before.history ++ reports.map (·.outcome.record)
  translator : after.translator = before.translator

variable {context workflow} {before middle after : Executor σ} {step : Step} {rest : List Step}

private theorem StepsRun.cancelled (history : after.history = before.history)
    (translator : after.translator = before.translator) (text : String) :
    StepsRun context workflow before after (step :: rest) [] (some text) where
  ran := .nil
  earlier := by simp
  last := by simp
  complete := by simp
  history := by simp [history]
  translator := translator

private theorem StepsRun.halted {report : StepReport} (failed : report.outcome.success = false)
    (error : report.outcome.error ≠ none)
    (reported : StepReport.Of context before.translator workflow step report)
    (history : after.history = before.history ++ [report.outcome.record])
    (translator : after.translator = before.translator) :
    StepsRun context workflow before after (step :: rest) [report] report.outcome.error where
  ran := .cons reported .nil
  earlier := by simp
  last := by simp
  complete := by simp [failed, error]
  history := by simp [history]
  translator := translator

theorem StepsRun.cons {report : StepReport} {reports : List StepReport} {error : Option String}
    (succeeded : report.outcome.success = true)
    (reported : StepReport.Of context before.translator workflow step report)
    (history : middle.history = before.history ++ [report.outcome.record])
    (translator : middle.translator = before.translator)
    (later : StepsRun context workflow middle after rest reports error) :
    StepsRun context workflow before after (step :: rest) (report :: reports) error where
  ran := .cons reported (translator ▸ later.ran)
  earlier := by
    intro other member
    cases reports with
    | nil => simp at member
    | cons next reports =>
      rcases List.mem_cons.mp member with rfl | member
      · exact succeeded
      · exact later.earlier other member
  last := by
    intro other member failed
    cases reports with
    | nil =>
      obtain rfl : report = other := by simpa using member
      rw [succeeded] at failed
      contradiction
    | cons next reports => exact later.last other (by simpa using member) failed
  complete := by simp [later.complete, succeeded]
  history := by simp [later.history, history]
  translator := later.translator.trans translator

/-- A step that failed is the last one, and its error is the error of the case. -/
theorem StepsRun.failed_last {steps : List Step} {reports : List StepReport} {error : Option String}
    (run : StepsRun context workflow before after steps reports error) {index : Nat}
    (inside : index < reports.length) (failed : reports[index].outcome.success = false) :
    index + 1 = reports.length ∧ error = reports[index].outcome.error := by
  have beyond : ¬ index < reports.dropLast.length := by
    intro earlier
    have member : reports[index] ∈ reports.dropLast := by
      rw [← List.getElem_dropLast earlier]
      exact List.getElem_mem earlier
    rw [run.earlier _ member] at failed
    contradiction
  have ends : index + 1 = reports.length := by
    rw [List.length_dropLast] at beyond
    omega
  have last : reports[index] ∈ reports.getLast? := by
    rw [List.getLast?_eq_getElem?, ← ends]
    simp [inside]
  exact ⟨ends, run.last _ last failed⟩

variable (context workflow)

private theorem runSteps_run (executor : Executor σ) (place : Nat) (steps : List Step) :
    let (reports, error, after) := executor.runSteps context workflow place steps
    StepsRun context workflow executor after steps reports error := by
  induction steps generalizing executor place with
  | nil => exact ⟨.nil, by simp, by simp, by simp, by simp, rfl⟩
  | cons step rest ih =>
    rw [runSteps]
    dsimp only
    split
    next =>
      have unchanged : (executor.elapse context).history = executor.history := rfl
      exact .cancelled unchanged rfl _
    next =>
      have executed := executeParsed_records context.toExecutionContext (executor.elapse context)
        step.action workflow
      have reported : StepReport.Of context executor.translator workflow step
          ⟨step.comment, step.isMultiline, ((executor.elapse context).executeParsed
            context.toExecutionContext step.action workflow).1⟩ :=
        ⟨rfl, rfl, executor.elapse context, rfl, rfl⟩
      generalize (executor.elapse context).executeParsed context.toExecutionContext step.action workflow =
        result at executed reported
      obtain ⟨outcome, middle⟩ := result
      obtain ⟨history, translator, error⟩ := executed
      split
      next succeeded => exact .cons succeeded reported history translator (ih middle (place + 1))
      next failed =>
        rw [Bool.not_eq_true] at failed
        have present : outcome.error ≠ none := by
          intro absent
          rw [error, absent] at failed
          contradiction
        exact .halted failed present reported history translator

theorem runCase_of (executor : Executor σ) (case : Case) :
    let (report, after) := executor.runCase context workflow case
    report.Of context executor.translator workflow case ∧
      after.history = executor.history ++ report.steps.map (·.outcome.record) ∧
      after.translator = executor.translator := by
  have run := runSteps_run context workflow executor 1 case.steps
  rw [runCase]
  generalize executor.runSteps context workflow 1 case.steps = result at run
  obtain ⟨reports, error, after⟩ := result
  refine ⟨⟨rfl, rfl, run.ran, run.earlier, ?_, ?_, ?_⟩, run.history, run.translator⟩
  · simp [CaseReport.passed, run.complete]
  · simp [CaseReport.failedStep?]
  · intro index found
    obtain ⟨inside, failed, _⟩ := List.findIdx?_eq_some_iff_getElem.mp found
    obtain ⟨ends, same⟩ := run.failed_last inside (by simpa using failed)
    exact ⟨ends, reports[index], by simp, same⟩

/-- What running cases leaves behind. Not all of them were run only if the run was cancelled. -/
structure CasesRun (before after : Executor σ) (cases : List Case) (reports : List CaseReport)
    (stopped : Bool) : Prop where
  ran : List.Forall₂ (fun case report => report.Of context before.translator workflow case)
    (cases.take reports.length) reports
  complete : stopped = false → reports.length = cases.length
  history : after.history = before.history ++ (reports.flatMap (·.steps)).map (·.outcome.record)
  translator : after.translator = before.translator

theorem runCases_run (executor : Executor σ) (cases : List Case) :
    let (reports, stopped, after) := executor.runCases context workflow cases
    CasesRun context workflow executor after cases reports stopped := by
  induction cases generalizing executor with
  | nil => exact ⟨.nil, by simp, by simp, rfl⟩
  | cons case rest ih =>
    rw [runCases]
    dsimp only
    split
    next => exact ⟨.nil, by simp, by simp [elapse], rfl⟩
    next =>
      have first := runCase_of context workflow (executor.elapse context) case
      generalize (executor.elapse context).runCase context workflow case = result at first
      obtain ⟨report, middle⟩ := result
      obtain ⟨reported, history, translator⟩ := first
      have later := ih middle
      generalize middle.runCases context workflow rest = result at later
      obtain ⟨reports, stopped, after⟩ := result
      refine ⟨?_, ?_, ?_, ?_⟩
      · exact .cons reported (translator ▸ later.ran)
      · intro kept
        simp [later.complete kept]
      · simp [later.history, history, elapse]
      · exact later.translator.trans translator

end Executor

private theorem RunReport.stats_cases (report : RunReport) :
    report.stats.cases = report.cases.length ∧
      report.stats.passed = report.cases.countP CaseReport.passed ∧
      report.stats.passed + report.stats.failed = report.stats.cases := by
  refine ⟨rfl, List.countP_eq_length_filter.symm, ?_⟩
  simpa [RunReport.stats, ← List.countP_eq_length_filter] using
    (@List.length_eq_countP_add_countP _ CaseReport.passed report.cases).symm

private theorem RunReport.stats_steps (report : RunReport) :
    report.stats.stepsRun = (report.cases.flatMap (·.steps)).length := by
  rw [List.length_flatMap]
  rfl

private theorem RunReport.stats_multiline (report : RunReport) :
    report.stats.multilineSteps = (report.cases.flatMap (·.steps)).countP (·.isMultiline) := by
  have each : CaseReport.multilineSteps = fun report => report.steps.countP (·.isMultiline) := by
    funext report
    exact List.countP_eq_length_filter.symm
  rw [List.countP_flatMap]
  simp only [RunReport.stats, each]
  rfl

/-- A report that claims no more than what was run: `before` and `after` are the executor's states
before and after the run. -/
structure RunReport.Faithful (context : RunContext σ) (document : Document) (before after : Executor σ)
    (report : RunReport) : Prop where
  cases : List.Forall₂ (fun case report => report.Of context before.translator document.workflow case)
    (document.cases.take report.cases.length) report.cases
  complete : report.cancelled = false → report.cases.length = document.cases.length
  caseCounts : report.stats.cases = report.cases.length ∧
    report.stats.passed = report.cases.countP CaseReport.passed ∧
    report.stats.passed + report.stats.failed = report.stats.cases
  stepCount : report.stats.stepsRun = (report.cases.flatMap (·.steps)).length
  multilineCount : report.stats.multilineSteps = (report.cases.flatMap (·.steps)).countP (·.isMultiline)
  history : after.history = before.history ++ (report.cases.flatMap (·.steps)).map (·.outcome.record)
  passed : report.passed = true → List.Forall₂
    (fun case report => report.steps.length = case.steps.length ∧
      ∀ step ∈ report.steps, step.outcome.success = true) document.cases report.cases

/-- Every run gives a faithful report, whatever its sessions answer and whenever it is cancelled. -/
theorem Executor.runDocument_faithful (context : RunContext σ) (executor : Executor σ)
    (document : Document) :
    let (report, after) := executor.runDocument context document
    report.Faithful context document executor after := by
  have run := runCases_run context document.workflow executor document.cases
  rw [runDocument]
  generalize executor.runCases context document.workflow document.cases = result at run
  obtain ⟨reports, stopped, middle⟩ := result
  dsimp only
  generalize made : RunReport.mk document.workflow reports
    (stopped || context.cancelled (middle.elapse context).state) = report
  have cases : report.cases = reports := by rw [← made]
  have complete (ended : report.cancelled = false) : report.cases.length = document.cases.length := by
    rw [← made, Bool.or_eq_false_iff] at ended
    rw [cases, run.complete ended.1]
  refine ⟨cases ▸ run.ran, complete, report.stats_cases, report.stats_steps, report.stats_multiline,
    cases ▸ run.history, ?_⟩
  intro passed
  obtain ⟨ended, all⟩ := Bool.and_eq_true_iff.mp passed
  have whole : document.cases.take report.cases.length = document.cases := by
    rw [complete (by simpa using ended), List.take_length]
  have ran := run.ran
  rw [← cases, whole] at ran
  rw [List.all_eq_true] at all
  refine List.forall₂_iff_get.mpr ⟨ran.length_eq, ?_⟩
  intro index inside within
  have reported := ran.get inside within
  exact reported.passed_iff.mp (all _ (List.get_mem _ _))

end TextScenario
