import TextScenario.CommandLine.Command
/-!
The watch command. Each round looks at the files as they have come to rest, runs what is fresh and
marks it if all of it passed; a batch that cannot be run is left unmarked.
-/

namespace TextScenario.CommandLine

/-- A watch between two rounds. -/
structure Watch (σ : Type) where
  monitor : Monitor
  executor : Executor σ
  files : FileSystem

/-- What a round prints, and whether the watch goes on after it. -/
structure Round (σ : Type) where
  output : String := ""
  result : Except FileFailure Unit
  watch : Watch σ

namespace Watch

variable {σ : Type}

/-- The rules and the cache are read once, when the watch begins. -/
def start (surroundings : Surroundings σ) (settings : Settings) (world : World σ) : Watch σ where
  monitor := { detector := settings.detector world.files }
  executor := CommandLine.executor surroundings settings world
  files := world.files

/-- Runs a batch and marks it if it passed. -/
def deliver (watch : Watch σ) (surroundings : Surroundings σ) (settings : Settings)
    (format : OutputFormat) (dryRun : Bool) (changes : List ScenarioChange) : Round σ :=
  let paths := changes.map (·.file)
  let context := runContext surroundings settings dryRun
  let batch :=
    runFiles context surroundings.environment settings watch.executor watch.files paths
  let (output, ran) :=
    match batch.reports with
    | .ok reports => (reportText surroundings.imprint format reports, allPassed paths reports)
    | .error _ => ("", false)
  let (result, monitor, files) := (watch.monitor.deliver changes).finish batch.files changes ran
  { output, result, watch := { monitor, executor := batch.executor, files } }

def round (watch : Watch σ) (surroundings : Surroundings σ) (settings : Settings)
    (format : OutputFormat) (dryRun : Bool) : Round σ :=
  match watch.monitor.fresh watch.files with
  | .error failure => { result := .error failure, watch }
  | .ok [] => { result := .ok (), watch }
  | .ok changes => watch.deliver surroundings settings format dryRun changes

/-- Rounds with edits to the files between them, up to the first that fails or is interrupted. -/
def rounds (surroundings : Surroundings σ) (settings : Settings) (format : OutputFormat)
    (dryRun : Bool) (watch : Watch σ) : List (FileSystem → FileSystem) → Round σ
  | [] => watch.round surroundings settings format dryRun
  | edit :: rest =>
    let first := watch.round surroundings settings format dryRun
    match first.result with
    | .error _ => first
    | .ok () =>
      if surroundings.interruption.fired first.watch.executor.state then first
      else
        let edited := { first.watch with files := edit first.watch.files }
        let further := rounds surroundings settings format dryRun edited rest
        { further with output := first.output ++ further.output }

end Watch

def watchHeading (settings : Settings) : String :=
  textOfLines ["Watching " ++ settings.scenariosDirectory ++ " (Ctrl-C to stop)"]

/-- Watches until it is interrupted after the round that follows the last edit. -/
def watchCommand {σ : Type} (surroundings : Surroundings σ) (settings : Settings)
    (format : OutputFormat) (dryRun : Bool) (edits : List (FileSystem → FileSystem))
    (world : World σ) : Ending σ :=
  let last :=
    (Watch.start surroundings settings world).rounds surroundings settings format dryRun edits
  { output := watchHeading settings ++ last.output
    verdict :=
      match last.result with
      | .ok () => .ok true
      | .error failure => .error (.failed .watch failure)
    world := { files := last.watch.files, server := last.watch.executor.state } }

end TextScenario.CommandLine
