import TextScenario.Json.Record
import TextScenario.Scenario.Document
/-!
Scenarios as JSON. What is written is read back.
-/

namespace TextScenario

namespace Step

def toJson (step : Step) : Json :=
  .object
    [("action", .text step.action),
     ("comment", .optional .text step.comment),
     ("is_multiline", .bool step.isMultiline)]

def ofJson? (json : Json) : Option Step := do
  let fields ← json.record? ["action", "comment", "is_multiline"] 2
  let action ← (← fields.lookup "action").text?
  let comment ← Json.optional? fields "comment" none (Json.nullable? Json.text?)
  let isMultiline ← Json.optional? fields "is_multiline" false Json.bool?
  some { action, comment, isMultiline }

end Step

namespace Case

def toJson (case : Case) : Json :=
  .object
    [("name", .text case.name),
     ("comments", .texts case.comments),
     ("steps", .array (case.steps.map Step.toJson))]

def ofJson? (json : Json) : Option Case := do
  let fields ← json.record? ["name", "comments", "steps"] 1
  let name ← (← fields.lookup "name").text?
  let comments ← Json.optional? fields "comments" [] (Json.list? Json.text?)
  let steps ← Json.optional? fields "steps" [] (Json.list? Step.ofJson?)
  some { name, comments, steps }

end Case

def DocumentStats.toJson (stats : DocumentStats) : Json :=
  .object
    [("cases", .ofNat stats.cases),
     ("steps", .ofNat stats.steps),
     ("multiline_steps", .ofNat stats.multilineSteps)]

namespace Document

def fields (document : Document) : List (String × Json) :=
  [("path", .optional .text document.path),
   ("workflow", .text document.workflow.text),
   ("cases", .array (document.cases.map Case.toJson))]

def toJson (document : Document) : Json :=
  .object document.fields

def ofJson? (json : Json) : Option Document := do
  let fields ← json.record? ["path", "workflow", "cases"] 3
  let path ← Json.optional? fields "path" none (Json.nullable? Json.text?)
  let workflow ← (← fields.lookup "workflow").text?
  let cases ← (← fields.lookup "cases").list? Case.ofJson?
  some { path, workflow := ⟨workflow⟩, cases }

end Document

end TextScenario
