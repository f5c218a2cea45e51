import TextScenario.FilePath
import TextScenario.Text.Case
/-!
Workflows. All steps of one scenario file belong to one workflow, named after the file.
-/

namespace TextScenario

structure WorkflowId where
  text : String
  deriving DecidableEq, Repr, Inhabited

namespace WorkflowId

def default : WorkflowId := ⟨"default-flow"⟩

/-- The lower-case file name without a final `.txt`, followed by `-flow`. -/
def ofFileName (name : String) : WorkflowId :=
  let lowered := Text.lower name.toList
  let base := (Text.stripEnd? ".txt".toList lowered).getD lowered
  ⟨String.ofList base ++ "-flow"⟩

/-- The workflow of the file at a path, with the text that a file name is known by. -/
def ofPath (path : String) (shown : String → String := id) : WorkflowId :=
  ofFileName (((FilePath.fileName? path).map shown).getD "")

end WorkflowId

end TextScenario
