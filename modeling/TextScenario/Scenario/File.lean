import TextScenario.FileSystem
import TextScenario.Scenario.Parser
/-!
Scenario files. Only reading a file and preparing the cache directory of its workflow can fail.
-/

namespace TextScenario

inductive ScenarioFileError where
  | unreadable (path : String) (error : FileError)
  | cacheDirectory (path : String) (error : FileError)
  deriving DecidableEq, Repr

def ScenarioFileError.message : ScenarioFileError → String
  | .unreadable path error => "failed to read scenario " ++ path ++ ": " ++ error.message
  | .cacheDirectory path error =>
    "failed to prepare workflow cache " ++ path ++ ": " ++ error.message

def ScenarioFileError.causes : ScenarioFileError → List String
  | .unreadable _ error | .cacheDirectory _ error => [error.message]

def WorkflowId.directory (workflow : WorkflowId) (cacheRoot : String) : String :=
  FilePath.join cacheRoot workflow.text

/-- The workflow of a scenario file, whose cache directory is created. -/
def FileSystem.prepareWorkflow (files : FileSystem) (path cacheRoot : String) :
    Except ScenarioFileError WorkflowId × FileSystem :=
  let workflow := WorkflowId.ofPath path files.shown
  let directory := workflow.directory cacheRoot
  match files.createDirectories directory with
  | (.ok (), files) => (.ok workflow, files)
  | (.error error, files) => (.error (.cacheDirectory directory error), files)

def FileSystem.readScenario (files : FileSystem) (environment : Environment) (path : String)
    (workflow : WorkflowId) : Except ScenarioFileError Document :=
  match files.readText path with
  | .ok text =>
    .ok { path := some path, workflow, cases := Scenario.parse environment text }
  | .error error => .error (.unreadable path error)

end TextScenario
