import TextScenario.Session
import TextScenario.Text.Lines
/-!
Scripted sessions. A script decides each reply by the first of its needles that occurs in the
instruction, failures before responses; every call is kept.
-/

namespace TextScenario

structure Script where
  failures : List (String × String) := []
  responses : List (String × Json) := []
  delay : Nat := 0
  deriving Inhabited

namespace Script

def firstWithin? {α : Type} (entries : List (String × α)) (text : String) : Option α :=
  (entries.find? fun (needle, _) => Text.contains needle.toList text.toList).map (·.2)

def result (script : Script) (call : SessionCall) : Except SessionError Json :=
  match firstWithin? script.failures call.instruction with
  | some message => .error (.rejected message)
  | none =>
    match firstWithin? script.responses call.instruction with
    | some value => .ok value
    | none =>
      match call.kind with
      | .extract => .ok (.object [("extracted", .text call.instruction)])
      | _ => .ok (.object [("status", .text "done")])

end Script

/-- The calls of each workflow, in the order in which sessions were opened. -/
abbrev SessionLog := List (WorkflowId × List SessionCall)

namespace SessionLog

def opened (log : SessionLog) (workflow : WorkflowId) : SessionLog :=
  if log.any (·.1 == workflow) then log else log ++ [(workflow, [])]

def record (log : SessionLog) (workflow : WorkflowId) (call : SessionCall) : SessionLog :=
  log.map fun (other, calls) => if other = workflow then (other, calls ++ [call]) else (other, calls)

def calls (log : SessionLog) (workflow : WorkflowId) : List SessionCall :=
  (log.lookup workflow).getD []

end SessionLog

def Script.provider (script : Script) : SessionProvider SessionLog where
  connect workflow log := .ok (log.opened workflow)
  call workflow call log :=
    ({ result := script.result call, delay := script.delay }, log.record workflow call)

end TextScenario
