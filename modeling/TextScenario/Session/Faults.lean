import TextScenario.Session.Script
/-!
Faults in front of other sessions. Calls are counted over all workflows, so that a run can be
cancelled at a certain call.
-/

namespace TextScenario

structure Faults where
  /-- Workflows whose session cannot be opened. -/
  unavailable : List (WorkflowId × String) := []
  /-- Errors of calls by the first needle that occurs in the instruction. -/
  errors : List (String × SessionError) := []
  /-- Whether sessions have no agent, so that the agent's part is acted. -/
  actOnly : Bool := false
  /-- The number of the call that cancels the run when it starts. -/
  cancelAfter : Option Nat := none
  deriving Inhabited

/-- The state of the sessions behind, and how many calls have started. -/
structure Counted (σ : Type) where
  state : σ
  started : Nat := 0
  cancelled : Bool := false

namespace Faults

def kindOf (faults : Faults) (kind : ActionKind) : ActionKind :=
  if faults.actOnly && kind == .agent then .act else kind

def start {σ : Type} (faults : Faults) (counted : Counted σ) : Counted σ :=
  let started := counted.started + 1
  { counted with started, cancelled := counted.cancelled || faults.cancelAfter == some started }

def wrap {σ : Type} (faults : Faults) (provider : SessionProvider σ) :
    SessionProvider (Counted σ) where
  connect workflow counted :=
    match faults.unavailable.lookup workflow with
    | some message => .error (.unavailable workflow message)
    | none => (provider.connect workflow counted.state).map ({ counted with state := · })
  call workflow call counted :=
    let counted := faults.start counted
    match Script.firstWithin? faults.errors call.instruction with
    | some error => ({ result := .error error }, counted)
    | none =>
      let call := { call with kind := faults.kindOf call.kind }
      let (reply, state) := provider.call workflow call counted.state
      (reply, { counted with state })

end Faults

end TextScenario
