import TextScenario.CommandLine.Program
import TextScenario.Proofs.ChangedCommand
import TextScenario.Proofs.ConfigurationCheck

/-! What a run prints that checks its configuration. The settings of a run come first, and they are read
from the core file too. Whether they can be read does not depend on what the check itself finds. -/

namespace TextScenario

/-- A core text from which no settings can be read. -/
inductive ExecutionConfig.Unusable (text : String) : Prop
  | unwritten (filled : isBlankText text = false) (malformed : Yaml.read? text = none)
  | shapeless {tree} (filled : isBlankText text = false) (read : Yaml.read? text = some tree)
      (other : tree.rootFields? = none)
  | misstated {tree fields} (filled : isBlankText text = false)
      (read : Yaml.read? text = some tree) (named : tree.rootFields? = some fields)
      (wrong : fields.read? "execution" {} (ofNode? tree) = none)

theorem ExecutionConfig.ofText?_eq_none_iff {text : String} :
    ofText? text = none ↔ Unusable text := by
  rw [ofText?]
  constructor
  · intro none
    split at none
    next => cases none
    next filled =>
      have filled := eq_false_of_ne_true filled
      cases read : Yaml.read? text with
      | none => exact .unwritten filled read
      | some tree =>
        cases named : tree.rootFields? with
        | none => exact .shapeless filled read named
        | some fields =>
          simp only [read, named, Option.bind_eq_bind, Option.bind_some] at none
          exact .misstated filled read named none
  · intro unusable
    cases unusable with
    | unwritten filled malformed => simp [filled, malformed]
    | shapeless filled read other => simp [filled, read, other]
    | misstated filled read named wrong => simpa [filled, read, named] using wrong

namespace Settings

variable {files : FileSystem} {directory : String} {environment : Environment} {options : Options}
  {problem : SettingsError}

def directoryOf (environment : Environment) (options : Options) : String :=
  (options.configDirectory.orElse fun _ => nonEmpty? environment configVariable).getD
    defaultConfigDirectory

/-- Why no settings can be read from a core file that is there. -/
inductive Blocked (files : FileSystem) (directory : String) : SettingsError → Prop
  | unreadable {error} (present : files.exists? (Configuration.corePath directory) = true)
      (failed : files.readText (Configuration.corePath directory) = .error error) :
      Blocked files directory (.unreadable (Configuration.corePath directory) error)
  | malformed {text} (read : files.readText (Configuration.corePath directory) = .ok text)
      (unusable : ExecutionConfig.Unusable text) :
      Blocked files directory (.malformed (Configuration.corePath directory))

theorem readExecution_eq_error_iff :
    readExecution files directory = .error problem ↔ Blocked files directory problem := by
  rw [readExecution]
  constructor
  · intro failed
    by_cases present : files.exists? (Configuration.corePath directory) = true
    · simp only [present, Bool.not_true, Bool.false_eq_true, if_false] at failed
      cases read : files.readText (Configuration.corePath directory) with
      | error error =>
        rw [read] at failed
        cases failed
        exact .unreadable present read
      | ok text =>
        cases config : ExecutionConfig.ofText? text with
        | some config => simp [read, config] at failed
        | none =>
          simp only [read, config, Except.error.injEq] at failed
          cases failed
          exact .malformed read (ExecutionConfig.ofText?_eq_none_iff.mp config)
    · simp [present] at failed
  · intro blocked
    cases blocked with
    | unreadable present failed => simp [present, failed]
    | malformed read unusable =>
      have present := FileSystem.exists?_of_readText read
      simp [present, read, ExecutionConfig.ofText?_eq_none_iff.mpr unusable]

theorem resolve_eq_error_iff :
    resolve files environment options = .error problem ↔
      Blocked files (directoryOf environment options) problem := by
  rw [← readExecution_eq_error_iff, directoryOf, resolve]
  cases readExecution files _ <;> simp [bind, Except.bind]

private theorem resolve_directory {settings : Settings}
    (resolved : resolve files environment options = .ok settings) :
    settings.configDirectory = directoryOf environment options := by
  simp only [resolve, bind, Except.bind] at resolved
  split at resolved
  next => cases resolved
  next =>
    cases resolved
    rfl

end Settings

namespace CommandLine

open Settings (Blocked directoryOf)

variable {σ : Type}

def Shows (format : OutputFormat) (issues : List Issue) (output : String) : Prop :=
  match format with
  | .human =>
    ∃ heading, output = textOfLines (heading :: issues.map fun issue => "  - " ++ issue.text)
  | _ => output = format.document (.array (issues.map Issue.toJson))

def Reports (format : OutputFormat) (found : Except (List Issue) Nat) (completion : Completion σ) :
    Prop :=
  match found with
  | .ok _ => completion.verdict = .ok true
  | .error issues => Shows format issues completion.output ∧ completion.verdict = .ok false

private theorem not_reports_of_error {format : OutputFormat} {completion : Completion σ}
    {problem : ProgramError} (found : Except (List Issue) Nat)
    (failed : completion.verdict = .error problem) : ¬ Reports format found completion := by
  cases found with
  | ok count => simp [Reports, failed]
  | error issues => simp [Reports, failed]

private theorem validateConfigCommand_reports (settings : Settings) (format : OutputFormat)
    (world : World σ) :
    let ending := validateConfigCommand settings format world
    Reports format (Configuration.validate world.files settings.configDirectory)
        (.ofEnding ending) ∧
      ending.world = world := by
  dsimp only
  unfold validateConfigCommand
  cases Configuration.validate world.files settings.configDirectory with
  | ok count => exact ⟨rfl, rfl⟩
  | error issues =>
    refine ⟨⟨?_, rfl⟩, rfl⟩
    cases format with
    | human => exact ⟨_, rfl⟩
    | json | yaml => rfl

/-- A run that is to check its configuration reports what the check finds exactly if the settings can be
read. If they cannot, it ends with that error and prints nothing. -/
theorem run_validateConfig (surroundings : Surroundings σ) {arguments : List String}
    (edits : List (FileSystem → FileSystem)) (world : World σ) {invocation : Invocation}
    (given : Invocation.ofArguments arguments = .ok invocation)
    (asked : invocation.command = .validateConfig)
    (logged : invocation.debug = true ∨ isLogLevel invocation.logLevel = true) :
    let directory := directoryOf surroundings.environment invocation.settings
    let found := Configuration.validate world.files directory
    let completion := run surroundings arguments edits world
    completion.world = world ∧
      (Reports invocation.output found completion ↔
        ∀ problem, ¬ Blocked world.files directory problem) ∧
      ∀ problem, Blocked world.files directory problem →
        completion.output = "" ∧ completion.verdict = .error (.settings problem) := by
  intro directory found completion
  have prepared : invocation.prepare world.files surroundings.environment =
      (Settings.resolve world.files surroundings.environment invocation.settings).mapError
        .settings := by
    rw [Invocation.prepare]
    rcases logged with debug | level
    · simp [debug]
    · simp [level]
  cases resolved : Settings.resolve world.files surroundings.environment invocation.settings with
  | error problem =>
    have blocked : Blocked world.files directory problem := Settings.resolve_eq_error_iff.mp resolved
    have ended : completion = { verdict := .error (.settings problem), world } := by
      simp only [completion, run, given, prepared, resolved]
      rfl
    have silent : ¬ Reports invocation.output found completion := by
      rw [ended]
      exact not_reports_of_error found rfl
    refine ⟨by rw [ended], ⟨fun told => absurd told silent, fun free => absurd blocked (free _)⟩, ?_⟩
    intro other stopped
    cases resolved.symm.trans (Settings.resolve_eq_error_iff.mpr stopped)
    rw [ended]
    exact ⟨rfl, rfl⟩
  | ok settings =>
    have free : ∀ problem, ¬ Blocked world.files directory problem := by
      intro problem blocked
      cases resolved.symm.trans (Settings.resolve_eq_error_iff.mpr blocked)
    have ended : completion = .ofEnding (validateConfigCommand settings invocation.output world) := by
      simp only [completion, run, given, prepared, resolved]
      rw [asked]
      rfl
    obtain ⟨reports, kept⟩ := validateConfigCommand_reports settings invocation.output world
    rw [Settings.resolve_directory resolved, ← ended] at reports
    refine ⟨?_, ⟨fun _ => free, fun _ => reports⟩, fun problem blocked => absurd blocked (free _)⟩
    rw [ended]
    exact kept

/-- A configuration directory with these two files. -/
def configured (core rules : String) : World Unit where
  files :=
    { entries :=
        [(["config"], .directory), (["config", "core.yaml"], .file core.toUTF8),
          (["config", "translation-rules.yaml"], .file rules.toUTF8)] }
  server := ()

def checking : Invocation where
  settings := {}
  logLevel := "info"
  debug := false
  output := .human
  command := .validateConfig

private theorem checking_given : Invocation.ofArguments ["config", "validate"] = .ok checking := rfl

private theorem checking_logged : isLogLevel checking.logLevel = true := by decide +kernel

/-- A faulty translation section is reported together with the faults of the rules. -/
theorem run_validateConfig_reports :
    let world := configured "translation: 3\n" "rules: 3\n"
    ∃ issues, Configuration.validate world.files "config" = .error issues ∧ issues.length = 2 ∧
      Reports .human (.error issues) (run unreached ["config", "validate"] [] world) := by
  intro world
  have found : Configuration.validate world.files "config" =
      .error
        [{ source := "config/core.yaml", message := "<yaml>" },
          { source := "config/translation-rules.yaml", message := "missing `rules` list" }] := by
    decide +kernel
  have free : ∀ problem, ¬ Blocked world.files "config" problem := by
    intro problem blocked
    have read : (Settings.readExecution world.files "config").isOk = true := by decide +kernel
    rw [Settings.readExecution_eq_error_iff.mpr blocked] at read
    cases read
  obtain ⟨-, reports, -⟩ :=
    run_validateConfig unreached [] world checking_given rfl (.inr checking_logged)
  refine ⟨_, found, rfl, ?_⟩
  rw [← found]
  exact reports.mpr free

/-- A faulty execution section ends the run before the fault of the rules is reported. -/
theorem run_validateConfig_stops :
    let world := configured "execution: 3\n" "rules: 3\n"
    let completion := run unreached ["config", "validate"] [] world
    Configuration.validate world.files "config" =
        .error [{ source := "config/translation-rules.yaml", message := "missing `rules` list" }] ∧
      completion.output = "" ∧
      completion.verdict = .error (.settings (.malformed "config/core.yaml")) := by
  decide +kernel

end CommandLine

end TextScenario
