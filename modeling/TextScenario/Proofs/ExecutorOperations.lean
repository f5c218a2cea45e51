import TextScenario.Execution.Operation
import TextScenario.Proofs.SessionCalls

/-! Executors in use. Whatever is compiled, executed and reloaded in between, each execution is one
record and one outcome, and the sessions were called once for each outcome that has a code. -/

namespace TextScenario

def Answer.outcomes (answers : List Answer) : List Outcome :=
  answers.filterMap Answer.outcome?

/-- What one operation answers and what it changes. Of an executed step the answer is the outcome that
is recorded, and a step that was compiled before is sent as it was shown then. -/
def Operation.Accounted (before after : Workbench SessionLog) (answer : Answer) : Operation → Prop
  | .compile _ _ | .compileParsed _ _ =>
    after.executor = before.executor ∧ ∃ result, answer = .compiled result
  | .execute action workflow | .executeParsed action workflow =>
    ∃ outcome, answer = .executed outcome ∧
      outcome.action = action ∧ outcome.workflow = workflow ∧
      after.executor.history = before.executor.history ++ [outcome.record]
  | .executeCompiled place =>
    ∀ step, before.compiled[place]? = some step → ∃ outcome, answer = .executed outcome ∧
      outcome.action = step.action ∧ outcome.workflow = step.workflow ∧
      outcome.call? = some step.call ∧
      after.executor.history = before.executor.history ++ [outcome.record]
  | .takeHistory => answer = .history before.executor.history ∧ after.executor.history = []
  | .edit _ | .reload =>
    after.executor.history = before.executor.history ∧ after.executor.state = before.executor.state

namespace Workbench

variable {σ : Type}

/-- What operations changed, as it is told by their answers. -/
structure Moved (log : σ → SessionLog) (before after : Workbench σ) (answers : List Answer) : Prop where
  history : answers.flatMap Answer.taken ++ after.executor.history =
    before.executor.history ++ (Answer.outcomes answers).map Outcome.record
  state : log after.executor.state =
    (Answer.outcomes answers).foldl SessionLog.note (log before.executor.state)
  compiled : after.compiled = before.compiled ++ answers.filterMap Answer.step?
  coded : ∀ outcome ∈ Answer.outcomes answers, outcome.call?.isSome = outcome.code.isSome

theorem Moved.trans {log : σ → SessionLog} {before middle after : Workbench σ}
    {answers later : List Answer} (first : Moved log before middle answers)
    (second : Moved log middle after later) : Moved log before after (answers ++ later) := by
  have outcomes : Answer.outcomes (answers ++ later) = Answer.outcomes answers ++ Answer.outcomes later :=
    List.filterMap_append
  refine ⟨?_, ?_, ?_, ?_⟩
  · rw [List.flatMap_append, List.append_assoc, second.history, ← List.append_assoc, first.history,
      outcomes, List.map_append, List.append_assoc]
  · rw [second.state, first.state, outcomes, List.foldl_append]
  · rw [second.compiled, first.compiled, List.filterMap_append, List.append_assoc]
  · intro outcome member
    rw [outcomes] at member
    rcases List.mem_append.mp member with earlier | last
    · exact first.coded outcome earlier
    · exact second.coded outcome last

variable {script : Script} {context : ExecutionContext σ} {log : σ → SessionLog}

private theorem keep_moved (log : σ → SessionLog) (bench : Workbench σ)
    (result : Except MissingParameters CompiledStep) :
    Moved log bench (bench.keep result).2 [(bench.keep result).1] := by
  refine ⟨(List.append_nil _).symm, rfl, ?_, by simp [keep, Answer.outcomes, Answer.outcome?]⟩
  cases result <;> rfl

private theorem done_moved {bench : Workbench σ} {result : Outcome × Executor σ}
    (executed : bench.executor.Executed log result.2 result.1) :
    Moved log bench (bench.done result).2 [(bench.done result).1] := by
  refine ⟨executed.history, executed.state, (List.append_nil _).symm, ?_⟩
  intro outcome member
  obtain rfl := List.mem_singleton.mp member
  exact executed.coded

private theorem perform_moved (followed : script.Followed context.sessions log) (bench : Workbench σ)
    (operation : Operation) :
    Moved log bench (bench.perform context operation).2 [(bench.perform context operation).1] := by
  have unchanged (other : Workbench σ) (history : other.executor.history = bench.executor.history)
      (state : other.executor.state = bench.executor.state)
      (compiled : other.compiled = bench.compiled) : Moved log bench other [.nothing] := by
    refine ⟨?_, congrArg log state, ?_, ?_⟩
    · rw [history]
      exact (List.append_nil _).symm
    · rw [compiled]
      exact (List.append_nil _).symm
    · simp [Answer.outcomes, Answer.outcome?]
  cases operation with
  | compile action workflow => exact keep_moved log bench _
  | compileParsed action workflow => exact keep_moved log bench _
  | execute action workflow =>
    exact done_moved (Executor.finish_executed followed bench.executor action workflow _)
  | executeParsed action workflow =>
    exact done_moved (Executor.finish_executed followed bench.executor action workflow _)
  | executeCompiled place =>
    rw [perform]
    split
    next step found =>
      exact done_moved
        (Executor.finish_executed followed bench.executor step.action step.workflow (.ok step))
    next => exact unchanged bench rfl rfl rfl
  | takeHistory =>
    refine ⟨?_, rfl, (List.append_nil _).symm, ?_⟩
    · simp [perform, Executor.takeHistory, Answer.taken, Answer.outcomes, Answer.outcome?]
    · simp [perform, Executor.takeHistory, Answer.outcomes, Answer.outcome?]
  | edit files => exact unchanged _ rfl rfl rfl
  | reload => exact unchanged _ rfl rfl rfl

private theorem run_moved (followed : script.Followed context.sessions log) (bench : Workbench σ)
    (operations : List Operation) :
    Moved log bench (bench.run context operations).2 (bench.run context operations).1 := by
  induction operations generalizing bench with
  | nil =>
    exact ⟨(List.append_nil _).symm, rfl, (List.append_nil _).symm, fun _ member => nomatch member⟩
  | cons operation rest ih =>
    have first := perform_moved followed bench operation
    have later := ih (bench.perform context operation).2
    exact first.trans later

private theorem perform_accounted (script : Script) (limit : Option Nat) (bench : Workbench SessionLog)
    (operation : Operation) :
    let context : ExecutionContext SessionLog := { sessions := script.provider, limit }
    operation.Accounted bench (bench.perform context operation).2 (bench.perform context operation).1 := by
  intro context
  have followed : script.Followed context.sessions id := script.followed_provider
  cases operation with
  | compile action workflow => exact ⟨rfl, _, rfl⟩
  | compileParsed action workflow => exact ⟨rfl, _, rfl⟩
  | execute action workflow =>
    obtain ⟨action, workflow⟩ := bench.executor.finish_names context
      (bench.executor.compile action workflow) Executor.compiled_names
    exact ⟨_, rfl, action, workflow, (Executor.finish_executed followed bench.executor _ _ _).history⟩
  | executeParsed action workflow =>
    obtain ⟨action, workflow⟩ := bench.executor.executeParsed_names context action workflow
    exact ⟨_, rfl, action, workflow, (Executor.finish_executed followed bench.executor _ _ _).history⟩
  | executeCompiled place =>
    intro step found
    obtain ⟨outcome, _⟩ := Executor.executeCompiled_followed followed bench.executor step
    have call : (bench.executor.executeCompiled context step).1.call? = some step.call := by
      rw [outcome, script.outcome_call?]
    obtain ⟨action, workflow⟩ := step.outcome_names
      (Executor.dispatch context step bench.executor.state).1
    rw [Workbench.perform, found]
    exact ⟨_, rfl, action, workflow, call, rfl⟩
  | takeHistory => exact ⟨rfl, rfl⟩
  | edit files => exact ⟨rfl, rfl⟩
  | reload => exact ⟨rfl, rfl⟩

/-- The books of an executor with scripted sessions. The first outcome of a workflow that has a code
opens its session, and each call of the session is the kind and code of one outcome. -/
structure Accounted (bench : Workbench SessionLog) (answers : List Answer) : Prop where
  history : answers.flatMap Answer.taken ++ bench.executor.history =
    (Answer.outcomes answers).map Outcome.record
  calls : ∀ workflow, bench.executor.state.calls workflow =
    ((Answer.outcomes answers).filter (·.workflow = workflow)).filterMap Outcome.call?
  coded : ∀ outcome ∈ Answer.outcomes answers, outcome.call?.isSome = outcome.code.isSome
  workflows : bench.executor.state.workflows =
    (((Answer.outcomes answers).filter (·.call?.isSome)).map (·.workflow)).eraseDups
  compiled : bench.compiled = answers.filterMap Answer.step?

/-- After any operations on a new executor its books are in order, and so they are after one more. -/
theorem run_accounted (script : Script) (limit : Option Nat) (translator : Translator)
    (files : FileSystem) (operations : List Operation) :
    let context : ExecutionContext SessionLog := { sessions := script.provider, limit }
    let (answers, bench) := (fresh translator files []).run context operations
    bench.Accounted answers ∧ ∀ operation,
      let (answer, after) := bench.perform context operation
      operation.Accounted bench after answer := by
  intro context
  have followed : script.Followed context.sessions id := script.followed_provider
  have moved := run_moved followed (fresh translator files []) operations
  generalize (fresh translator files []).run context operations = result at moved
  obtain ⟨answers, bench⟩ := result
  have state : bench.executor.state = (Answer.outcomes answers).foldl SessionLog.note [] := moved.state
  refine ⟨⟨moved.history, ?_, moved.coded, ?_, moved.compiled⟩, ?_⟩
  · intro workflow
    rw [state, SessionLog.foldl_note_calls]
    rfl
  · rw [state, SessionLog.foldl_note_workflows]
  · exact perform_accounted script limit bench

end Workbench

end TextScenario
