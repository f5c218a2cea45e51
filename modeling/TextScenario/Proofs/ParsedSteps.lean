import TextScenario.Execution.Step
import TextScenario.Proofs.ScenarioRoundTrip
import TextScenario.Session.Script

/-! A step that was read from a scenario comes to the same as its text does when it is executed at once.
Variables are put in by the reader on one way and by the translator on the other, once on each. -/

namespace TextScenario

namespace Translation

/-- The same translation of another text. -/
def withSource (source : String) : Translation → Translation
  | .rules translation => .rules { translation with source }
  | .agent action _ => .agent action source

private theorem withSource_kind (source : String) (translation : Translation) :
    (translation.withSource source).kind = translation.kind := by
  cases translation <;> rfl

private theorem withSource_code (source : String) (translation : Translation) :
    (translation.withSource source).code = translation.code := by
  cases translation <;> rfl

private theorem withSource_failureText (source : String) (translation : Translation) (error : StepError) :
    (translation.withSource source).failureText error = translation.failureText error := by
  cases translation <;> rfl

end Translation

/-- The text before variables were put in is kept and has no other effect. -/
theorem RuleBook.translate_withSource (book : RuleBook) (source other action : String) :
    book.translate other action = (book.translate source action).map (·.withSource other) := by
  unfold translate
  split
  · rfl
  · dsimp only
    split <;> rfl

namespace CompiledStep

/-- The same step under another action and another source. -/
def retold (step : CompiledStep) (action source : String) : CompiledStep :=
  { step with action, translation := step.translation.withSource source }

private theorem retold_call (step : CompiledStep) (action source : String) :
    (step.retold action source).call = step.call := by
  simp only [call, retold, Translation.withSource_kind, Translation.withSource_code]

private theorem retold_outcome (step : CompiledStep) (action source : String)
    (result : Except StepError Json) :
    (step.retold action source).outcome result = { step.outcome result with action } := by
  cases result <;>
    simp only [outcome, retold, Translation.withSource_kind, Translation.withSource_code,
      Translation.withSource_failureText]

end CompiledStep

namespace Executor

variable {σ : Type} (context : ExecutionContext σ) (executor : Executor σ)

/-- A parsed step compiles to what the text compiles to that variables were put into. -/
theorem compileParsed_retold (action : String) (workflow : WorkflowId) :
    let expanded := executor.translator.environment.expand action
    executor.compileParsed expanded workflow =
      (executor.compile action workflow).map (·.retold expanded expanded) := by
  intro expanded
  have translated := executor.translator.book.translate_withSource action expanded expanded
  rw [compile, compileParsed, Translator.translateExpanded, translated, Translator.translate]
  cases executor.translator.book.translate action expanded <;> rfl

private theorem dispatch_retold (step : CompiledStep) (action source : String) (state : σ) :
    dispatch context (step.retold action source) state = dispatch context step state := by
  rw [dispatch, CompiledStep.retold_call]
  rfl

private theorem finish_retold (action other source : String) (workflow : WorkflowId)
    (compiled : Except MissingParameters CompiledStep) :
    let told := executor.finish context action workflow compiled
    let retold := executor.finish context other workflow (compiled.map (·.retold other source))
    retold.1 = { told.1 with action := other } ∧ retold.2.state = told.2.state := by
  cases compiled with
  | error error => exact ⟨rfl, rfl⟩
  | ok step =>
    have dispatched := dispatch_retold context step other source executor.state
    simp only [Except.map, finish, executeCompiled, record, dispatched, and_true]
    exact step.retold_outcome other source _

end Executor

namespace Scenario

/-- A text that is written as the only step of a case is read as that text with variables put in. -/
theorem parse_single (environment : Environment) {header : Header} (opened : header ≠ .separator)
    (action : Instruction) :
    ∃ name, parse environment (write [{ header, items := [.step action none] }]) =
      [{ name, steps := [{ action := environment.expand (String.ofList action.text) }] }] := by
  refine ⟨header.name 1, (parse_write environment _ (by simpa using opened)).trans ?_⟩
  rfl

end Scenario

open Scenario

/-- A text that is written as the only step of a scenario, read and executed, comes to what it comes to
when it is executed directly: the outcomes differ in nothing but the action, and the sessions are left
in the same state, which for scripted sessions is the log of their calls. -/
theorem Executor.executeParsed_written {σ : Type} (context : ExecutionContext σ)
    (executor : Executor σ) (header : Header) (opened : header ≠ .separator) (action : Instruction)
    (workflow : WorkflowId) :
    let environment := executor.translator.environment
    let text := String.ofList action.text
    let direct := executor.execute context text workflow
    ∃ case step, parse environment (write [{ header, items := [.step action none] }]) = [case] ∧
      case.steps = [step] ∧ step.action = environment.expand text ∧
      let parsed := executor.executeParsed context step.action workflow
      parsed.1 = { direct.1 with action := step.action } ∧ parsed.2.state = direct.2.state := by
  intro environment text direct
  obtain ⟨name, parsed⟩ := parse_single environment opened action
  refine ⟨_, _, parsed, rfl, rfl, ?_⟩
  dsimp only
  rw [executeParsed, executor.compileParsed_retold]
  exact executor.finish_retold context text _ _ workflow _

/-- A text with a comment mark in it and a variable whose value looks like another variable. -/
private def openHome : Instruction where
  text := "open #%HOME%".toList
  trimmed := by decide
  nonempty := by decide
  oneLine := by decide
  noSeparator := by decide
  noMarker := by decide

private def opener : Executor SessionLog where
  translator :=
    .load {}
      (.inline
        [{ name := some "open", patterns := ["open \x7bpage\x7d"],
           template := some "goto \x7bpage\x7d" }] {})
      none ⟨[("HOME", "%START%"), ("START", "index")]⟩
  state := []

private def unreachable : ExecutionContext SessionLog where
  sessions := ({ failures := [("goto", "no page")] } : Script).provider

theorem executeParsed_written_failing :
    Header.bare ≠ .separator ∧
      ∃ case step, parse opener.translator.environment
          (write [{ header := .bare, items := [.step openHome none] }]) = [case] ∧
        case.steps = [step] ∧ step.action = "open #%START%" ∧
        let direct := opener.execute unreachable "open #%HOME%" .default
        let parsed := opener.executeParsed unreachable step.action .default
        parsed.1 = { direct.1 with action := step.action } ∧ parsed.2.state = direct.2.state ∧
        direct.1.error = some ("automation rejected the step: no page\n  rule: open\n" ++
          "  pattern: open \x7bpage\x7d\n  params: \x7b\"page\":\"#%START%\"\x7d\n" ++
          "  code: goto #%START%") := by
  have opened : Header.bare ≠ .separator := by simp
  obtain ⟨case, step, parsed, steps, action, same, state⟩ :=
    opener.executeParsed_written unreachable .bare opened openHome .default
  have expanded : opener.translator.environment.expand (String.ofList openHome.text) =
      "open #%START%" := by decide +kernel
  refine ⟨opened, case, step, parsed, steps, action.trans expanded, same, state, ?_⟩
  decide +kernel

end TextScenario
