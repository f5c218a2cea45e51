import Mathlib.Data.List.Induction
import TextScenario.Proofs.RunReports
import TextScenario.Session.Script

/-! What scripted sessions see of the steps that are executed. Each step that has a translation is one
call, whether it succeeds, fails or takes too long, and a step without a translation is none. -/

namespace TextScenario

/-- The call that an outcome tells of. -/
def Outcome.call? (outcome : Outcome) : Option SessionCall :=
  match outcome.kind, outcome.code with
  | some kind, some instruction => some { kind, instruction }
  | _, _ => none

theorem CompiledStep.outcome_names (step : CompiledStep) (result : Except StepError Json) :
    (step.outcome result).action = step.action ∧ (step.outcome result).workflow = step.workflow := by
  cases result <;> exact ⟨rfl, rfl⟩

namespace SessionLog

def workflows (log : SessionLog) : List WorkflowId :=
  log.map (·.1)

def note (log : SessionLog) (outcome : Outcome) : SessionLog :=
  match outcome.call? with
  | some call => (log.opened outcome.workflow).record outcome.workflow call
  | none => log

private theorem any_workflow (log : SessionLog) (workflow : WorkflowId) :
    log.any (·.1 == workflow) = true ↔ workflow ∈ log.workflows := by
  simp [workflows]

private theorem opened_workflows (log : SessionLog) (workflow : WorkflowId) :
    (log.opened workflow).workflows =
      if workflow ∈ log.workflows then log.workflows else log.workflows ++ [workflow] := by
  simp only [opened, any_workflow]
  split
  · rfl
  · simp [workflows]

private theorem record_workflows (log : SessionLog) (workflow : WorkflowId) (call : SessionCall) :
    (log.record workflow call).workflows = log.workflows := by
  simp only [workflows, record, List.map_map]
  refine List.map_congr_left fun entry _ => ?_
  simp only [Function.comp_apply]
  split <;> rfl

private theorem opened_calls (log : SessionLog) (workflow other : WorkflowId) :
    (log.opened workflow).calls other = log.calls other := by
  rw [opened]
  split
  · rfl
  · rw [calls, calls, List.lookup_append]
    cases log.lookup other with
    | some calls => rfl
    | none =>
      rw [Option.none_or, List.lookup_cons]
      split <;> rfl

private theorem record_lookup (log : SessionLog) (workflow : WorkflowId) (call : SessionCall)
    (other : WorkflowId) :
    (log.record workflow call).lookup other =
      (log.lookup other).map fun calls => if workflow = other then calls ++ [call] else calls := by
  induction log with
  | nil => rfl
  | cons entry rest ih =>
    obtain ⟨first, calls⟩ := entry
    have head : record ((first, calls) :: rest) workflow call =
        (first, if first = workflow then calls ++ [call] else calls) :: record rest workflow call := by
      simp only [record, List.map_cons]
      split <;> rfl
    rw [head, List.lookup_cons, List.lookup_cons]
    split
    next found =>
      obtain rfl : other = first := beq_iff_eq.mp found
      simp [eq_comm]
    next => exact ih

private theorem record_calls {log : SessionLog} {workflow : WorkflowId} (present : workflow ∈ log.workflows)
    (call : SessionCall) (other : WorkflowId) :
    (log.record workflow call).calls other =
      log.calls other ++ if workflow = other then [call] else [] := by
  rw [calls, calls, record_lookup]
  by_cases same : workflow = other
  · subst same
    have found : (log.lookup workflow).isSome = true := by
      rw [List.lookup_isSome_iff]
      obtain ⟨entry, member, named⟩ := List.mem_map.mp present
      exact ⟨entry, member, beq_iff_eq.mpr named.symm⟩
    obtain ⟨calls, found⟩ := Option.isSome_iff_exists.mp found
    simp [found]
  · simp [same]

private theorem note_calls (log : SessionLog) (outcome : Outcome) (workflow : WorkflowId) :
    (log.note outcome).calls workflow =
      log.calls workflow ++ if outcome.workflow = workflow then outcome.call?.toList else [] := by
  rw [note]
  split
  next call found =>
    have present : outcome.workflow ∈ (log.opened outcome.workflow).workflows := by
      rw [opened_workflows]
      split <;> simp [*]
    rw [record_calls present, opened_calls, found]
    rfl
  next none => simp [none]

private theorem note_workflows (log : SessionLog) (outcome : Outcome) :
    (log.note outcome).workflows =
      if outcome.call?.isNone ∨ outcome.workflow ∈ log.workflows then log.workflows
      else log.workflows ++ [outcome.workflow] := by
  rw [note]
  split
  next call found => simp [record_workflows, opened_workflows, found]
  next none => simp [none]

theorem foldl_note_calls (log : SessionLog) (outcomes : List Outcome) (workflow : WorkflowId) :
    (outcomes.foldl note log).calls workflow =
      log.calls workflow ++ (outcomes.filter (·.workflow = workflow)).filterMap Outcome.call? := by
  induction outcomes generalizing log with
  | nil => simp
  | cons outcome rest ih =>
    rw [List.foldl_cons, ih, note_calls]
    by_cases same : outcome.workflow = workflow
    · cases made : outcome.call? <;> simp [same, made]
    · simp [same]

/-- Sessions are opened once for each workflow, when its first call is made. -/
theorem foldl_note_workflows (outcomes : List Outcome) :
    (outcomes.foldl note []).workflows =
      ((outcomes.filter (·.call?.isSome)).map (·.workflow)).eraseDups := by
  induction outcomes using List.reverseRecOn with
  | nil => rfl
  | append_singleton earlier outcome ih =>
    rw [List.foldl_append, List.foldl_cons, List.foldl_nil, note_workflows, ih]
    simp only [List.mem_eraseDups]
    cases made : outcome.call? with
    | none => simp [made]
    | some call =>
      rw [List.filter_append, List.map_append, List.eraseDups_append]
      by_cases seen : outcome.workflow ∈ (earlier.filter (·.call?.isSome)).map (·.workflow)
      · simp [made, seen, List.removeAll]
      · simp [made, seen, List.removeAll, List.eraseDups_cons]

end SessionLog

variable {σ : Type}

/-- Sessions that open for every workflow, answer as a script says, and keep each call in a log. -/
structure Script.Followed (script : Script) (sessions : SessionProvider σ) (log : σ → SessionLog) :
    Prop where
  connect : ∀ workflow state, ∃ opened, sessions.connect workflow state = .ok opened ∧
    log opened = (log state).opened workflow
  reply : ∀ workflow call state,
    (sessions.call workflow call state).1 = { result := script.result call, delay := script.delay }
  call : ∀ workflow call state,
    log (sessions.call workflow call state).2 = (log state).record workflow call

namespace Script

theorem followed_provider (script : Script) : script.Followed script.provider id :=
  ⟨fun _ _ => ⟨_, rfl, rfl⟩, fun _ _ _ => rfl, fun _ _ _ => rfl⟩

def outcome (script : Script) (limit : Option Nat) (step : CompiledStep) : Outcome :=
  step.outcome
    (SessionReply.within { result := script.result step.call, delay := script.delay } limit)

def outcomeOf (script : Script) (limit : Option Nat) (action : String) (workflow : WorkflowId) :
    Except MissingParameters CompiledStep → Outcome
  | .ok step => script.outcome limit step
  | .error error => error.outcome action workflow

theorem outcome_call? (script : Script) (limit : Option Nat) (step : CompiledStep) :
    (script.outcome limit step).call? = some step.call := by
  rw [outcome]
  generalize SessionReply.within _ limit = result
  cases result <;> rfl

private theorem outcomeOf_coded (script : Script) (limit : Option Nat) (action : String)
    (workflow : WorkflowId) (compiled : Except MissingParameters CompiledStep) :
    (script.outcomeOf limit action workflow compiled).call?.isSome =
      (script.outcomeOf limit action workflow compiled).code.isSome := by
  cases compiled with
  | error error => rfl
  | ok step =>
    rw [outcomeOf, outcome]
    generalize SessionReply.within _ limit = result
    cases result <;> rfl

private theorem outcome_workflow (script : Script) (limit : Option Nat) (step : CompiledStep) :
    (script.outcome limit step).workflow = step.workflow :=
  (step.outcome_names _).2

end Script

/-- What executing a step leaves behind. Its outcome is recorded, and so is its call, if there was
one. -/
structure Executor.Executed (log : σ → SessionLog) (before after : Executor σ) (outcome : Outcome) :
    Prop where
  history : after.history = before.history ++ [outcome.record]
  translator : after.translator = before.translator
  state : log after.state = (log before.state).note outcome
  coded : outcome.call?.isSome = outcome.code.isSome

namespace Executor

theorem compiled_names {translated : Except MissingParameters Translation} {action : String}
    {workflow : WorkflowId} (step : CompiledStep)
    (compiled : translated.map
      (fun translation => ({ action, translation, workflow } : CompiledStep)) = .ok step) :
    step.action = action ∧ step.workflow = workflow := by
  cases translated with
  | error => cases compiled
  | ok => cases compiled; exact ⟨rfl, rfl⟩

theorem finish_names (context : ExecutionContext σ) (executor : Executor σ) {action : String}
    {workflow : WorkflowId} (compiled : Except MissingParameters CompiledStep)
    (named : ∀ step, compiled = .ok step → step.action = action ∧ step.workflow = workflow) :
    (executor.finish context action workflow compiled).1.action = action ∧
      (executor.finish context action workflow compiled).1.workflow = workflow := by
  cases compiled with
  | error error => exact ⟨rfl, rfl⟩
  | ok step =>
    obtain ⟨rfl, rfl⟩ := named step rfl
    exact step.outcome_names _

theorem executeParsed_names (context : ExecutionContext σ) (executor : Executor σ) (action : String)
    (workflow : WorkflowId) :
    let outcome := (executor.executeParsed context action workflow).1
    outcome.action = action ∧ outcome.workflow = workflow :=
  executor.finish_names context (executor.compileParsed action workflow) compiled_names

variable {script : Script} {context : ExecutionContext σ} {log : σ → SessionLog}

/-- The session of the step's workflow is opened if it has to be, and called once. -/
theorem dispatch_followed (followed : script.Followed context.sessions log) (step : CompiledStep)
    (state : σ) :
    (dispatch context step state).1 =
        SessionReply.within { result := script.result step.call, delay := script.delay } context.limit ∧
      log (dispatch context step state).2 =
        ((log state).opened step.workflow).record step.workflow step.call := by
  obtain ⟨opened, connected, logged⟩ := followed.connect step.workflow state
  rw [dispatch, connected, ← logged, ← followed.reply step.workflow step.call opened]
  exact ⟨rfl, followed.call step.workflow step.call opened⟩

theorem executeCompiled_followed (followed : script.Followed context.sessions log)
    (executor : Executor σ) (step : CompiledStep) :
    (executor.executeCompiled context step).1 = script.outcome context.limit step ∧
      log (executor.executeCompiled context step).2.state =
        (log executor.state).note (script.outcome context.limit step) := by
  obtain ⟨replied, logged⟩ := dispatch_followed followed step executor.state
  refine ⟨congrArg step.outcome replied, ?_⟩
  rw [SessionLog.note, script.outcome_call?, script.outcome_workflow]
  exact logged

theorem finish_followed (followed : script.Followed context.sessions log) (executor : Executor σ)
    (action : String) (workflow : WorkflowId) (compiled : Except MissingParameters CompiledStep) :
    (executor.finish context action workflow compiled).1 =
        script.outcomeOf context.limit action workflow compiled ∧
      log (executor.finish context action workflow compiled).2.state =
        (log executor.state).note (script.outcomeOf context.limit action workflow compiled) := by
  cases compiled with
  | ok step => exact executeCompiled_followed followed executor step
  | error error => exact ⟨rfl, rfl⟩

theorem finish_executed (followed : script.Followed context.sessions log) (executor : Executor σ)
    (action : String) (workflow : WorkflowId) (compiled : Except MissingParameters CompiledStep) :
    Executed log executor (executor.finish context action workflow compiled).2
      (executor.finish context action workflow compiled).1 := by
  obtain ⟨history, translator, _⟩ := finish_records context executor action workflow compiled
  obtain ⟨outcome, state⟩ := finish_followed followed executor action workflow compiled
  refine ⟨history, translator, outcome ▸ state, ?_⟩
  rw [outcome]
  exact script.outcomeOf_coded context.limit action workflow compiled

end Executor

end TextScenario
