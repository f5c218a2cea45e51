import TextScenario.Execution.Step
import TextScenario.Session.Script
/-!
An executor in use. Steps are compiled, executed, and executed again later, while the rule files change
and are read again.
-/

namespace TextScenario

/-- One thing that is done with an executor or with the files around it. A step that was compiled is
known by its place among the steps compiled so far. -/
inductive Operation where
  | compile (action : String) (workflow : WorkflowId)
  | compileParsed (action : String) (workflow : WorkflowId)
  | execute (action : String) (workflow : WorkflowId)
  | executeParsed (action : String) (workflow : WorkflowId)
  | executeCompiled (place : Nat)
  | takeHistory
  | edit (files : FileSystem)
  | reload

inductive Answer where
  | compiled (result : Except MissingParameters CompiledStep)
  | executed (outcome : Outcome)
  | history (records : List ExecutionRecord)
  | nothing

namespace Answer

def step? : Answer → Option CompiledStep
  | .compiled (.ok step) => some step
  | _ => none

def outcome? : Answer → Option Outcome
  | .executed outcome => some outcome
  | _ => none

/-- The records that were taken out of the history. -/
def taken : Answer → List ExecutionRecord
  | .history records => records
  | _ => []

end Answer

structure Workbench (σ : Type) where
  files : FileSystem
  executor : Executor σ
  compiled : List CompiledStep := []

namespace Workbench

variable {σ : Type}

/-- A workbench with nothing executed yet. -/
def fresh (translator : Translator) (files : FileSystem) (state : σ) : Workbench σ :=
  { files, executor := { translator, state } }

/-- Keeps a step that was compiled for later. -/
def keep (bench : Workbench σ) (result : Except MissingParameters CompiledStep) :
    Answer × Workbench σ :=
  (.compiled result, { bench with compiled := bench.compiled ++ result.toOption.toList })

def done (bench : Workbench σ) (result : Outcome × Executor σ) : Answer × Workbench σ :=
  (.executed result.1, { bench with executor := result.2 })

def perform (context : ExecutionContext σ) (bench : Workbench σ) : Operation → Answer × Workbench σ
  | .compile action workflow => bench.keep (bench.executor.compile action workflow)
  | .compileParsed action workflow => bench.keep (bench.executor.compileParsed action workflow)
  | .execute action workflow => bench.done (bench.executor.execute context action workflow)
  | .executeParsed action workflow =>
    bench.done (bench.executor.executeParsed context action workflow)
  | .executeCompiled place =>
    match bench.compiled[place]? with
    | some step => bench.done (bench.executor.executeCompiled context step)
    | none => (.nothing, bench)
  | .takeHistory =>
    let (records, executor) := bench.executor.takeHistory
    (.history records, { bench with executor })
  | .edit files => (.nothing, { bench with files })
  | .reload =>
    let translator := bench.executor.translator.reload bench.files
    (.nothing, { bench with executor := { bench.executor with translator } })

def run (context : ExecutionContext σ) (bench : Workbench σ) :
    List Operation → List Answer × Workbench σ
  | [] => ([], bench)
  | operation :: rest =>
    let (answer, bench) := bench.perform context operation
    let (answers, bench) := bench.run context rest
    (answer :: answers, bench)

end Workbench

end TextScenario
