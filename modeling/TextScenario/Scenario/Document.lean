import TextScenario.Workflow
/-!
Scenarios. A document is a list of named cases, and a case is a list of steps with the comments
written above them.
-/

namespace TextScenario

def total (counts : List Nat) : Nat :=
  counts.foldr (· + ·) 0

structure Step where
  action : String
  comment : Option String := none
  isMultiline : Bool := false
  deriving DecidableEq, Repr, Inhabited

structure Case where
  name : String
  comments : List String := []
  steps : List Step := []
  deriving DecidableEq, Repr, Inhabited

def Case.multilineSteps (case : Case) : Nat :=
  (case.steps.filter (·.isMultiline)).length

structure Document where
  path : Option String := none
  workflow : WorkflowId
  cases : List Case := []
  deriving DecidableEq, Repr, Inhabited

structure DocumentStats where
  cases : Nat
  steps : Nat
  multilineSteps : Nat
  deriving DecidableEq, Repr, Inhabited

namespace Document

def statsOf (cases : List Case) : DocumentStats where
  cases := cases.length
  steps := total (cases.map (·.steps.length))
  multilineSteps := total (cases.map Case.multilineSteps)

def stats (document : Document) : DocumentStats :=
  statsOf document.cases

def case? (document : Document) (name : String) : Option Case :=
  document.cases.find? (·.name == name)

end Document

end TextScenario
