import TextScenario.CommandLine.Watch
/-!
The program as a function. The command line is read first, then the log level is checked, then the
settings are read; only then is the command carried out.
-/

namespace TextScenario.CommandLine

/-- A level by its name, in any case, or by its number from one to five. -/
def isLogLevel (text : String) : Bool :=
  match number? greatestNumber text with
  | some level => 1 ≤ level && level ≤ 5
  | none => ["error", "warn", "info", "debug", "trace"].contains (text.map Char.toLower)

/-- How the program ends. Its verdict is false if the command found failures. -/
structure Completion (σ : Type) where
  output : String := ""
  verdict : Except ProgramError Bool
  world : World σ

namespace Completion

variable {σ : Type}

def ofEnding (ending : Ending σ) : Completion σ where
  output := ending.output
  verdict := ending.verdict.mapError .command
  world := ending.world

def exitStatus (completion : Completion σ) : Nat :=
  match completion.verdict with
  | .ok passed => if passed then 0 else 1
  | .error error => error.exitStatus

end Completion

variable {σ : Type}

/-- Carries out a command. The edits are made to the files while they are being watched. -/
def perform (surroundings : Surroundings σ) (settings : Settings) (format : OutputFormat)
    (edits : List (FileSystem → FileSystem)) (world : World σ) : Command → Ending σ
  | .run files dryRun => runCommand surroundings settings format files dryRun world
  | .changed => changedCommand settings format world
  | .runChanged dryRun => runChangedCommand surroundings settings format dryRun world
  | .translate text => translateCommand surroundings settings format text world
  | .parse file => parseCommand surroundings.environment format file world
  | .watch _ dryRun => watchCommand surroundings settings format dryRun edits world
  | .viewConfig => viewConfigCommand surroundings settings format world
  | .validateConfig => validateConfigCommand settings format world
  | .info => infoCommand surroundings settings format world

/-- Checks the log level and reads the settings of an invocation. -/
def Invocation.prepare (invocation : Invocation) (files : FileSystem) (environment : Environment) :
    Except ProgramError Settings :=
  if !invocation.debug && !isLogLevel invocation.logLevel then .error .logLevel
  else (Settings.resolve files environment invocation.settings).mapError .settings

def versionText (command : List String) : String :=
  "-".intercalate command ++ " " ++ programVersion ++ "\n"

def run (surroundings : Surroundings σ) (arguments : List String)
    (edits : List (FileSystem → FileSystem)) (world : World σ) : Completion σ :=
  match Invocation.ofArguments arguments with
  | .error error => { verdict := .error (.usage error), world }
  | .ok invocation =>
    match invocation.prepare world.files surroundings.environment with
    | .error error => { verdict := .error error, world }
    | .ok settings =>
      .ofEnding
        (perform surroundings settings invocation.output edits world invocation.command)

end TextScenario.CommandLine
