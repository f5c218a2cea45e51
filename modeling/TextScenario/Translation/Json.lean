import TextScenario.Translation
/-!
Translations, and what a rule book has to say about itself, as JSON.
-/

namespace TextScenario

def Parameters.toJson (parameters : Parameters) : Json :=
  .object (parameters.map fun (name, value) => (name, .optional .text value))

def ActionKind.toJson (kind : ActionKind) : Json :=
  .text kind.text

def Translation.toJson (translation : Translation) : Json :=
  let common :=
    [("engine", .text translation.engine), ("action", .text translation.action),
     ("action_raw", .text translation.source)]
  match translation with
  | .agent _ _ => .object common
  | .rules found =>
    .object (common ++
      [("rule", .text found.rule),
       ("pattern", .text found.pattern),
       ("params", found.parameters.toJson),
       ("template", .text found.template),
       ("code", .text found.code),
       ("action_type", found.kind.toJson),
       ("validation", .object [("missing", .texts found.missing)])])

def Candidate.toJson (candidate : Candidate) : Json :=
  .object
    [("rule", .text candidate.rule),
     ("pattern", .text candidate.pattern),
     ("expression", .text candidate.expression)]

def Issue.toJson (issue : Issue) : Json :=
  .object
    [("source", .text issue.source),
     ("rule_index", .optional (fun rule => .ofNat rule.1) issue.rule),
     ("rule_name", .optional .text (issue.rule.bind (·.2))),
     ("message", .text issue.message)]

end TextScenario
