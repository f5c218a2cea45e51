import TextScenario.Environment
import TextScenario.Rule
/-!
Translations. The text of a step is either rendered through a rule or handed to the agent as it
is.
-/

namespace TextScenario

structure RuleTranslation where
  action : String
  source : String
  rule : String
  pattern : String
  parameters : Parameters
  template : String
  code : String
  kind : ActionKind
  missing : List String

/-- What a step becomes; `source` is its text before variables were put in. -/
inductive Translation where
  | rules (translation : RuleTranslation)
  | agent (action source : String)

namespace Translation

def engine : Translation → String
  | .rules _ => "rules"
  | .agent _ _ => "agent"

def action : Translation → String
  | .rules translation => translation.action
  | .agent action _ => action

def source : Translation → String
  | .rules translation => translation.source
  | .agent _ source => source

def kind : Translation → ActionKind
  | .rules translation => translation.kind
  | .agent _ _ => .agent

def code : Translation → String
  | .rules translation => translation.code
  | .agent action _ => action

end Translation

/-- A rule matched, but required parameters have no value. -/
structure MissingParameters where
  rule : String
  missing : List String
  deriving DecidableEq, Repr

def MissingParameters.message (error : MissingParameters) : String :=
  "rule " ++ error.rule ++ " is missing required parameter(s): " ++
    String.intercalate ", " error.missing

namespace RuleBook

/-- Translates an action. Missing parameters are an error for a strict book only. -/
def translate (book : RuleBook) (source action : String) : Except MissingParameters Translation :=
  match book.find? action with
  | none => .ok (.agent action source)
  | some found =>
    let missing := Template.missing found.rule.required found.parameters
    if !missing.isEmpty && book.strict then .error { rule := found.rule.name, missing }
    else
      .ok (.rules
        { action
          source
          rule := found.rule.name
          pattern := found.pattern
          parameters := found.parameters
          template := found.rule.template
          code := Template.render found.rule.template found.parameters
          kind := Template.actionKind found.rule.template
          missing })

end RuleBook

end TextScenario
