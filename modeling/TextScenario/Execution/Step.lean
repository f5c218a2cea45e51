import TextScenario.Json.Shallow
import TextScenario.Session
import TextScenario.Translation.Json
import TextScenario.Translator
/-!
Executing steps. A step is compiled to a translation, which is sent to the session of its workflow
once; whatever happens, the outcome is data and is recorded once.
-/

namespace TextScenario

/-- A step with the translation that it had when it was compiled. -/
structure CompiledStep where
  action : String
  translation : Translation
  workflow : WorkflowId

inductive StepError where
  | untranslated (error : MissingParameters)
  | session (error : SessionError)
  | timeout (limit : Nat)
  deriving DecidableEq, Repr

def StepError.message : StepError → String
  | .untranslated error => error.message
  | .session error => error.message
  | .timeout limit => "step timed out after " ++ toString limit ++ "ms"

/-- A failure of a step that a rule translated says which rule, and what it made of the step. -/
def Translation.failureText (translation : Translation) (error : StepError) : String :=
  match translation with
  | .agent _ _ => error.message
  | .rules found =>
    error.message ++ "\n  rule: " ++ found.rule ++ "\n  pattern: " ++ found.pattern ++
      "\n  params: " ++ found.parameters.toJson.compact ++ "\n  code: " ++ found.code

/-- What became of a step. A step that could not be translated has no kind and no code. -/
structure Outcome where
  success : Bool
  action : String
  kind : Option ActionKind := none
  code : Option String := none
  result : Option Json := none
  summary : Option String := none
  error : Option String := none
  workflow : WorkflowId

/-- What the history keeps of an outcome. -/
structure ExecutionRecord where
  action : String
  kind : Option ActionKind
  success : Bool
  error : Option String
  workflow : WorkflowId
  deriving DecidableEq, Repr

def Outcome.record (outcome : Outcome) : ExecutionRecord where
  action := outcome.action
  kind := outcome.kind
  success := outcome.success
  error := outcome.error
  workflow := outcome.workflow

namespace CompiledStep

def call (step : CompiledStep) : SessionCall where
  kind := step.translation.kind
  instruction := step.translation.code

def outcome (step : CompiledStep) (result : Except StepError Json) : Outcome :=
  let sent : Outcome :=
    { success := false
      action := step.action
      kind := some step.translation.kind
      code := some step.translation.code
      workflow := step.workflow }
  match result with
  | .ok value => { sent with success := true, result := some value, summary := some value.summary }
  | .error error => { sent with error := some (step.translation.failureText error) }

end CompiledStep

def MissingParameters.outcome (error : MissingParameters) (action : String)
    (workflow : WorkflowId) : Outcome :=
  { success := false, action, error := some (StepError.untranslated error).message, workflow }

/-- How sessions are reached, and how long a call may take; without a limit it may take any time. -/
structure ExecutionContext (σ : Type) where
  sessions : SessionProvider σ
  limit : Option Nat := none

/-- A reply that takes longer than the limit is a timeout, whatever it says. -/
def SessionReply.within (reply : SessionReply) (limit : Option Nat) : Except StepError Json :=
  match limit.filter (· < reply.delay) with
  | some limit => .error (.timeout limit)
  | none => reply.result.mapError .session

structure Executor (σ : Type) where
  translator : Translator
  state : σ
  history : List ExecutionRecord := []

namespace Executor

variable {σ : Type}

def compile (executor : Executor σ) (action : String) (workflow : WorkflowId) :
    Except MissingParameters CompiledStep :=
  (executor.translator.translate action).map fun translation => { action, translation, workflow }

/-- Compiles a step whose variables were put in when it was read. -/
def compileParsed (executor : Executor σ) (action : String) (workflow : WorkflowId) :
    Except MissingParameters CompiledStep :=
  (executor.translator.translateExpanded action).map fun translation =>
    { action, translation, workflow }

def record (executor : Executor σ) (outcome : Outcome) : Outcome × Executor σ :=
  (outcome, { executor with history := executor.history ++ [outcome.record] })

def dispatch (context : ExecutionContext σ) (step : CompiledStep) (state : σ) :
    Except StepError Json × σ :=
  match context.sessions.connect step.workflow state with
  | .error error => (.error (.session error), state)
  | .ok state =>
    let (reply, state) := context.sessions.call step.workflow step.call state
    (reply.within context.limit, state)

def executeCompiled (context : ExecutionContext σ) (executor : Executor σ) (step : CompiledStep) :
    Outcome × Executor σ :=
  let (result, state) := dispatch context step executor.state
  { executor with state }.record (step.outcome result)

def finish (context : ExecutionContext σ) (executor : Executor σ) (action : String)
    (workflow : WorkflowId) (compiled : Except MissingParameters CompiledStep) :
    Outcome × Executor σ :=
  match compiled with
  | .ok step => executor.executeCompiled context step
  | .error error => executor.record (error.outcome action workflow)

def execute (context : ExecutionContext σ) (executor : Executor σ) (action : String)
    (workflow : WorkflowId) : Outcome × Executor σ :=
  executor.finish context action workflow (executor.compile action workflow)

def executeParsed (context : ExecutionContext σ) (executor : Executor σ) (action : String)
    (workflow : WorkflowId) : Outcome × Executor σ :=
  executor.finish context action workflow (executor.compileParsed action workflow)

/-- The history so far, which starts anew. -/
def takeHistory (executor : Executor σ) : List ExecutionRecord × Executor σ :=
  (executor.history, { executor with history := [] })

end Executor

end TextScenario
