import TextScenario.Change.Monitor
import TextScenario.CommandLine.Failure
import TextScenario.CommandLine.Invocation
import TextScenario.CommandLine.Report
import TextScenario.Scenario.Json
import TextScenario.Session.Http
import TextScenario.Translator
/-!
The commands. Each is a function of the settings and of its surroundings, and says what is printed,
whether all went well, and what became of the files and of the automation server.
-/

namespace TextScenario

def ExecutionConfig.toJson (config : ExecutionConfig) : Json :=
  .object
    [("stepTimeoutMs", .ofNat config.stepTimeout),
     ("cacheDir", .text config.cacheDirectory),
     ("sessionEndpoint", .optional .text config.sessionEndpoint)]

def Settings.translator (settings : Settings) (environment : Environment) (files : FileSystem) :
    Translator :=
  .load files (.directory settings.configDirectory) settings.strict environment

def Settings.detector (settings : Settings) (files : FileSystem) : ChangeDetector :=
  .ofPaths files settings.scenariosDirectory settings.cacheFile

namespace CommandLine

/-- How a command learns that it is interrupted. That may happen at any moment, also while the server is
being asked, and is never taken back. -/
structure Interruption {σ : Type} (server : HttpServer σ) where
  fired : σ → Bool := fun _ => false
  /-- What happens until the command looks the next time. -/
  elapse : σ → σ := id
  elapse_fired : ∀ state, fired state = true → fired (elapse state) = true := by simp
  answer_fired : ∀ request state, fired state = true →
    fired (server.answer request state).2 = true := by simp

/-- What a command finds around it and leaves as it is. -/
structure Surroundings (σ : Type) where
  environment : Environment
  server : HttpServer σ
  imprint : Imprint := {}
  interruption : Interruption server := {}

/-- What a command may change. -/
structure World (σ : Type) where
  files : FileSystem
  server : σ

/-- How a command ends. Its verdict is false if it came to its end but found failures. -/
structure Ending (σ : Type) where
  output : String := ""
  verdict : Except CommandError Bool
  world : World σ

variable {σ : Type}

/-- Steps go to the endpoint if there is one, unless they are only to be tried out. -/
def sessions (surroundings : Surroundings σ) (settings : Settings) (dryRun : Bool) :
    SessionProvider σ :=
  match settings.execution.sessionEndpoint with
  | some endpoint => if dryRun then .dryRun else HttpSession.provider surroundings.server endpoint
  | none => .dryRun

/-- A run is cancelled when the command is interrupted. -/
def runContext (surroundings : Surroundings σ) (settings : Settings) (dryRun : Bool) :
    RunContext σ where
  sessions := sessions surroundings settings dryRun
  limit := settings.execution.timeout?
  cancelled := surroundings.interruption.fired
  elapse := surroundings.interruption.elapse

def executor (surroundings : Surroundings σ) (settings : Settings) (world : World σ) :
    Executor σ where
  translator := settings.translator surroundings.environment world.files
  state := world.server

/-- Reads a scenario after its workflow's cache directory is created. -/
def loadScenario (environment : Environment) (settings : Settings) (files : FileSystem)
    (path : String) : Except ScenarioFileError Document × FileSystem :=
  let (workflow, files) := files.prepareWorkflow path settings.execution.cacheDirectory
  (workflow.bind (files.readScenario environment path), files)

/-- Files that were run one after another by one executor. -/
structure Batch (σ : Type) where
  reports : Except ScenarioFileError (List FileReport)
  executor : Executor σ
  files : FileSystem

/-- Runs files in order. A file that cannot be loaded ends the batch, and so does cancellation. -/
def runFiles (context : RunContext σ) (environment : Environment) (settings : Settings)
    (executor : Executor σ) (files : FileSystem) : List String → Batch σ
  | [] => { reports := .ok [], executor, files }
  | path :: rest =>
    let executor := executor.elapse context
    if context.cancelled executor.state then { reports := .ok [], executor, files }
    else match loadScenario environment settings files path with
      | (.error error, files) => { reports := .error error, executor, files }
      | (.ok document, files) =>
        let (report, executor) := executor.runDocument context document
        let batch := runFiles context environment settings executor files rest
        { batch with reports := batch.reports.map ({ path, report } :: ·) }

def allPassed (paths : List String) (reports : List FileReport) : Bool :=
  reports.all (·.report.passed) && reports.length == paths.length

def noScenarios (settings : Settings) : String :=
  textOfLines ["No scenarios found in " ++ settings.scenariosDirectory]

def nothingChanged : String :=
  textOfLines ["No changed scenarios"]

/-- Runs files and reports on them. What is to be done with the reports comes last. -/
def runAndReport (surroundings : Surroundings σ) (settings : Settings) (format : OutputFormat)
    (dryRun : Bool) (world : World σ) (paths : List String)
    (conclude : List FileReport → FileSystem → Except CommandError Bool × FileSystem) : Ending σ :=
  let context := runContext surroundings settings dryRun
  let start := executor surroundings settings world
  let batch := runFiles context surroundings.environment settings start world.files paths
  match batch.reports with
  | .error error =>
    { verdict := .error (.scenario error)
      world := { files := batch.files, server := batch.executor.state } }
  | .ok reports =>
    let (verdict, files) := conclude reports batch.files
    { output := reportText surroundings.imprint format reports
      verdict
      world := { files, server := batch.executor.state } }

def runCommand (surroundings : Surroundings σ) (settings : Settings) (format : OutputFormat)
    (named : List String) (dryRun : Bool) (world : World σ) : Ending σ :=
  let paths :=
    if named.isEmpty then world.files.scenarioFiles settings.scenariosDirectory else .ok named
  match paths with
  | .error failure => { verdict := .error (.failed .list failure), world }
  | .ok [] => { output := noScenarios settings, verdict := .ok true, world }
  | .ok paths =>
    runAndReport surroundings settings format dryRun world paths fun reports files =>
      (.ok (allPassed paths reports), files)

def changedCommand (settings : Settings) (format : OutputFormat) (world : World σ) : Ending σ :=
  match (settings.detector world.files).changes world.files with
  | .error failure => { verdict := .error (.failed .scan failure), world }
  | .ok changes =>
    let output :=
      match format with
      | .human => if changes.isEmpty then nothingChanged else textOfLines (changes.map (·.file))
      | _ => format.document (.array (changes.map ScenarioChange.toJson))
    { output, verdict := .ok true, world }

/-- Runs the changed scenarios and marks those that pass. -/
def runChangedCommand (surroundings : Surroundings σ) (settings : Settings)
    (format : OutputFormat) (dryRun : Bool) (world : World σ) : Ending σ :=
  let detector := settings.detector world.files
  match detector.changes world.files with
  | .error failure => { verdict := .error (.failed .scan failure), world }
  | .ok [] => { output := nothingChanged, verdict := .ok true, world }
  | .ok changes =>
    let paths := changes.map (·.file)
    runAndReport surroundings settings format dryRun world paths fun reports files =>
      let passed := (reports.filter (·.report.passed)).map (·.path)
      let (marked, _, files) := detector.mark files passed
      match marked with
      | .error failure => (.error (.failed .record failure), files)
      | .ok () => (.ok (passed.length == paths.length), files)

def translateCommand (surroundings : Surroundings σ) (settings : Settings) (format : OutputFormat)
    (text : String) (world : World σ) : Ending σ :=
  let translator := settings.translator surroundings.environment world.files
  let translation := translator.translate text
  let error? : Except MissingParameters Translation → Option String
    | .ok _ => none
    | .error error => some error.message
  let preview : Json :=
    .object
      [("input", .text text),
       ("translation", .optional Translation.toJson translation.toOption),
       ("error", .optional .text (error? translation)),
       ("candidates", .array ((translator.candidates text).map Candidate.toJson)),
       ("issues", .array (translator.book.issues.map Issue.toJson))]
  { output := format.document preview, verdict := .ok translation.isOk, world }

def parseCommand (environment : Environment) (format : OutputFormat) (path : String)
    (world : World σ) : Ending σ :=
  match world.files.readScenario environment path (.ofPath path world.files.shown) with
  | .error error => { verdict := .error (.scenario error), world }
  | .ok document =>
    { output := format.document (.object (document.fields ++ [("stats", document.stats.toJson)]))
      verdict := .ok true
      world }

/-- The settings with the rules in use; for people as YAML. -/
def viewConfigCommand (surroundings : Surroundings σ) (settings : Settings)
    (format : OutputFormat) (world : World σ) : Ending σ :=
  let book := (settings.translator surroundings.environment world.files).book
  let ruleView (rule : Rule) : Json :=
    .object
      [("name", .text rule.name), ("patterns", .texts rule.patterns),
       ("template", .text rule.template)]
  let view : Json :=
    .object
      [("config_dir", .text settings.configDirectory),
       ("scenarios_dir", .text settings.scenariosDirectory),
       ("cache_file", .text settings.cacheFile),
       ("execution", settings.execution.toJson),
       ("delimiter", .text book.delimiter.name),
       ("strict", .bool book.strict),
       ("param_patterns",
         .array (book.library.fragments.map fun (name, fragment) => .texts [name, fragment])),
       ("rules", .array (book.rules.map fun compiled => ruleView compiled.rule)),
       ("issues", .array (book.issues.map Issue.toJson))]
  let format := if format = .human then .yaml else format
  { output := format.document view, verdict := .ok true, world }

def validateConfigCommand (settings : Settings) (format : OutputFormat) (world : World σ) :
    Ending σ :=
  let start := "Configuration in " ++ settings.configDirectory
  match Configuration.validate world.files settings.configDirectory with
  | .ok rules =>
    { output := textOfLines [start ++ " is valid (" ++ toString rules ++ " rules)"]
      verdict := .ok true
      world }
  | .error issues =>
    let output :=
      match format with
      | .human =>
        textOfLines
          ((start ++ " has " ++ toString issues.length ++ " problem(s):") ::
            issues.map fun issue => "  - " ++ issue.text)
      | _ => format.document (.array (issues.map Issue.toJson))
    { output, verdict := .ok false, world }

/-- What there is to run and to run it with. A scenario directory that cannot be read counts as
empty. -/
def infoCommand (surroundings : Surroundings σ) (settings : Settings) (format : OutputFormat)
    (world : World σ) : Ending σ :=
  let imprint := surroundings.imprint
  let book := (settings.translator surroundings.environment world.files).book
  let scenarios :=
    match world.files.scenarioFiles settings.scenariosDirectory with
    | .ok paths => paths.length
    | .error _ => 0
  let endpoint := settings.execution.sessionEndpoint
  let output :=
    match format with
    | .human =>
      textOfLines
        ["Text Tester System Information",
         "==============================",
         "Version:          " ++ programVersion,
         "Build date:       " ++ imprint.buildDate,
         "Git commit:       " ++ imprint.commit,
         "Config directory: " ++ settings.configDirectory,
         "Rules loaded:     " ++ toString book.rules.length ++ " (" ++
           toString book.issues.length ++ " issues)",
         "Strict mode:      " ++ toString book.strict,
         "Scenarios:        " ++ toString scenarios ++ " in " ++ settings.scenariosDirectory,
         "Session endpoint: " ++ endpoint.getD "none (dry run)"]
    | _ =>
      format.document
        (.object
          [("version", .text programVersion),
           ("build_date", .text imprint.buildDate),
           ("git_hash", .text imprint.commit),
           ("config_dir", .text settings.configDirectory),
           ("scenarios_dir", .text settings.scenariosDirectory),
           ("scenarios", .ofNat scenarios),
           ("rules", .ofNat book.rules.length),
           ("config_issues", .ofNat book.issues.length),
           ("strict", .bool book.strict),
           ("session_endpoint", .optional .text endpoint)])
  { output, verdict := .ok true, world }

end CommandLine

end TextScenario
