import TextScenario.Json
import TextScenario.Template
import TextScenario.Workflow
/-!
Automation sessions. A provider keeps one session for each workflow in a state of its own; time
spent in a call is part of its reply.
-/

namespace TextScenario

inductive SessionError where
  | rejected (message : String)
  | transport (message : String)
  | status (code : Nat) (body : String)
  | unavailable (workflow : WorkflowId) (message : String)
  deriving DecidableEq, Repr, Inhabited

def SessionError.message : SessionError → String
  | .rejected detail => "automation rejected the step: " ++ detail
  | .transport detail => "automation endpoint unreachable: " ++ detail
  | .status code body => "automation endpoint returned " ++ toString code ++ ": " ++ body
  | .unavailable workflow detail =>
    "could not open a session for workflow " ++ workflow.text ++ ": " ++ detail

structure SessionCall where
  kind : ActionKind
  instruction : String
  deriving DecidableEq, Repr, Inhabited

structure SessionReply where
  result : Except SessionError Json
  /-- Milliseconds until the reply. -/
  delay : Nat := 0

structure SessionProvider (σ : Type) where
  /-- Opens the session of a workflow, or finds the one that is open. -/
  connect : WorkflowId → σ → Except SessionError σ
  call : WorkflowId → SessionCall → σ → SessionReply × σ

/-- Sessions that accept every call and do nothing. -/
def SessionProvider.dryRun {σ : Type} : SessionProvider σ where
  connect _ state := .ok state
  call _ _ state := ({ result := .ok .null }, state)

end TextScenario
