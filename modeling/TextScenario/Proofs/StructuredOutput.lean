import TextScenario.CommandLine.Program
import TextScenario.Proofs.ConfigurationReports
import TextScenario.Proofs.JsonPrinting

/-! Which runs print a document when JSON is asked for. A command that comes to its end prints one, but for
the cases in which it only says in words that there was nothing to do or nothing wrong. -/

namespace TextScenario.CommandLine

open Json.Grammar

variable {σ : Type} {surroundings : Surroundings σ} {settings : Settings} {files : FileSystem}

/-- The cases in which a command says what it has found in words only. -/
inductive InWords (settings : Settings) (files : FileSystem) : Command → Prop
  | noScenarios {dryRun} (none : files.scenarioFiles settings.scenariosDirectory = .ok []) :
      InWords settings files (.run [] dryRun)
  | nothingChanged {dryRun} (none : (settings.detector files).changes files = .ok []) :
      InWords settings files (.runChanged dryRun)
  | valid {count} (sound : Configuration.validate files settings.configDirectory = .ok count) :
      InWords settings files .validateConfig

private theorem document_element (json : Json) : Element (OutputFormat.json.document json).toList :=
  json.pretty_element

private theorem noScenarios_words (settings : Settings) : ¬ Element (noScenarios settings).toList := by
  have words : (noScenarios settings).toList =
      'N' :: ("o scenarios found in ".toList ++ settings.scenariosDirectory.toList ++ ['\n']) := by
    simp [noScenarios, textOfLines]
  rw [words]
  exact Json.not_element rfl (by simp)

private theorem nothingChanged_words : ¬ Element nothingChanged.toList := by
  have words : nothingChanged.toList = 'N' :: "o changed scenarios\n".toList := by
    simp [nothingChanged, textOfLines]
  rw [words]
  exact Json.not_element rfl (by simp)

private theorem runAndReport_element {dryRun : Bool} {world : World σ} {paths : List String}
    {conclude : List FileReport → FileSystem → Except CommandError Bool × FileSystem} {passed : Bool}
    (ended : (runAndReport surroundings settings .json dryRun world paths conclude).verdict =
      .ok passed) :
    Element (runAndReport surroundings settings .json dryRun world paths conclude).output.toList := by
  unfold runAndReport at ended ⊢
  dsimp only at ended ⊢
  split at ended
  next => cases ended
  next => exact document_element _

private theorem runCommand_element {named : List String} {dryRun : Bool} {world : World σ} {passed : Bool}
    (ended : (runCommand surroundings settings .json named dryRun world).verdict = .ok passed) :
    Element (runCommand surroundings settings .json named dryRun world).output.toList ↔
      ¬ InWords settings world.files (.run named dryRun) := by
  have listed : InWords settings world.files (.run named dryRun) ↔
      named = [] ∧ world.files.scenarioFiles settings.scenariosDirectory = .ok [] := by
    constructor
    · intro words
      cases words with
      | noScenarios none => exact ⟨rfl, none⟩
    · rintro ⟨rfl, none⟩
      exact .noScenarios none
  rw [listed]
  unfold runCommand at ended ⊢
  cases named with
  | nil =>
    cases found : world.files.scenarioFiles settings.scenariosDirectory with
    | error failure =>
      simp only [found] at ended
      cases ended
    | ok paths =>
      simp only [found, List.isEmpty_nil, if_true] at ended ⊢
      cases paths with
      | nil => simp [noScenarios_words]
      | cons path rest => simp [runAndReport_element ended]
  | cons path rest =>
    simp only [List.isEmpty_cons, Bool.false_eq_true, if_false] at ended ⊢
    simp [runAndReport_element ended]

private theorem changedCommand_element {world : World σ} {passed : Bool}
    (ended : (changedCommand settings .json world).verdict = .ok passed) :
    Element (changedCommand settings .json world).output.toList := by
  unfold changedCommand at ended ⊢
  split at ended
  next => cases ended
  next => exact document_element _

private theorem runChangedCommand_element {dryRun : Bool} {world : World σ} {passed : Bool}
    (ended : (runChangedCommand surroundings settings .json dryRun world).verdict = .ok passed) :
    Element (runChangedCommand surroundings settings .json dryRun world).output.toList ↔
      ¬ InWords settings world.files (.runChanged dryRun) := by
  have unchanged : InWords settings world.files (.runChanged dryRun) ↔
      (settings.detector world.files).changes world.files = .ok [] := by
    constructor
    · intro words
      cases words with
      | nothingChanged none => exact none
    · exact .nothingChanged
  rw [unchanged]
  unfold runChangedCommand at ended ⊢
  cases found : (settings.detector world.files).changes world.files with
  | error failure =>
    simp only [found] at ended
    cases ended
  | ok changes =>
    simp only [found] at ended ⊢
    cases changes with
    | nil => simp [nothingChanged_words]
    | cons change rest => exact iff_of_true (runAndReport_element ended) nofun

private theorem parseCommand_element {environment : Environment} {path : String} {world : World σ}
    {passed : Bool}
    (ended : (parseCommand environment .json path world).verdict = .ok passed) :
    Element (parseCommand environment .json path world).output.toList := by
  unfold parseCommand at ended ⊢
  split at ended
  next => cases ended
  next => exact document_element _

private theorem validateConfigCommand_element (world : World σ) :
    Element (validateConfigCommand settings .json world).output.toList ↔
      ¬ InWords settings world.files .validateConfig := by
  have valid : InWords settings world.files .validateConfig ↔
      ∃ count, Configuration.validate world.files settings.configDirectory = .ok count := by
    constructor
    · intro words
      cases words with
      | valid sound => exact ⟨_, sound⟩
    · rintro ⟨count, sound⟩
      exact .valid sound
  rw [valid]
  unfold validateConfigCommand
  cases found : Configuration.validate world.files settings.configDirectory with
  | error issues => simp [document_element]
  | ok count =>
    refine iff_of_false ?_ fun unsound => unsound ⟨count, rfl⟩
    have words : (textOfLines ["Configuration in " ++ settings.configDirectory ++ " is valid (" ++
        toString count ++ " rules)"]).toList =
        'C' :: ("onfiguration in ".toList ++ (settings.configDirectory ++ " is valid (" ++
          toString count ++ " rules)\n").toList) := by
      simp [textOfLines]
    dsimp only
    rw [words]
    exact Json.not_element rfl (by simp)

/-- A command that comes to its end prints one document, unless it is one that speaks in words. -/
theorem perform_element (edits : List (FileSystem → FileSystem)) (world : World σ)
    {command : Command} (unwatched : ∀ options dryRun, command ≠ .watch options dryRun) {passed : Bool}
    (ended : (perform surroundings settings .json edits world command).verdict = .ok passed) :
    Element (perform surroundings settings .json edits world command).output.toList ↔
      ¬ InWords settings world.files command := by
  cases command with
  | run named dryRun => exact runCommand_element ended
  | changed => exact iff_of_true (changedCommand_element ended) nofun
  | runChanged dryRun => exact runChangedCommand_element ended
  | translate text => exact iff_of_true (document_element _) nofun
  | parse file => exact iff_of_true (parseCommand_element ended) nofun
  | watch options dryRun => exact absurd rfl (unwatched options dryRun)
  | viewConfig => exact iff_of_true (document_element _) nofun
  | validateConfig => exact validateConfigCommand_element world
  | info => exact iff_of_true (document_element _) nofun

/-- A run that is asked for JSON and comes to its end prints one document, unless its command is one that
speaks in words. -/
theorem run_document (surroundings : Surroundings σ) {arguments : List String}
    (edits : List (FileSystem → FileSystem)) (world : World σ) {invocation : Invocation}
    (given : Invocation.ofArguments arguments = .ok invocation) (asked : invocation.output = .json)
    (unwatched : ∀ options dryRun, invocation.command ≠ .watch options dryRun) {passed : Bool}
    (ended : (run surroundings arguments edits world).verdict = .ok passed) :
    ∃ settings,
      Settings.resolve world.files surroundings.environment invocation.settings = .ok settings ∧
      (Element (run surroundings arguments edits world).output.toList ↔
        ¬ InWords settings world.files invocation.command) := by
  simp only [run, given] at ended ⊢
  cases prepared : invocation.prepare world.files surroundings.environment with
  | error error =>
    rw [prepared] at ended
    cases ended
  | ok settings =>
    rw [prepared] at ended
    have resolved : Settings.resolve world.files surroundings.environment invocation.settings =
        .ok settings := by
      rw [Invocation.prepare] at prepared
      split at prepared
      · cases prepared
      · cases read : Settings.resolve world.files surroundings.environment invocation.settings with
        | error problem =>
          rw [read] at prepared
          cases prepared
        | ok found =>
          rw [read] at prepared
          cases prepared
          rfl
    refine ⟨settings, resolved, ?_⟩
    dsimp only at ended ⊢
    rw [asked] at ended ⊢
    cases verdict : (perform surroundings settings .json edits world invocation.command).verdict with
    | error problem =>
      rw [Completion.ofEnding, verdict] at ended
      cases ended
    | ok found => exact perform_element edits world unwatched verdict

def bare : World Unit where
  files := {}
  server := ()

theorem run_document_changed :
    Element (run unreached ["changed", "--output", "json"] [] bare).output.toList := by
  have given : Invocation.ofArguments ["changed", "--output", "json"] =
      .ok { checking with output := .json, command := .changed } := rfl
  have ended : (run unreached ["changed", "--output", "json"] [] bare).verdict = .ok true := by
    decide +kernel
  obtain ⟨settings, -, element⟩ := run_document unreached [] bare given rfl nofun ended
  exact element.mpr nofun

theorem run_document_words :
    let none := run unreached ["run", "--output", "json"] [] bare
    let unchanged := run unreached ["changed", "--run", "--output", "json"] [] bare
    none.verdict = .ok true ∧ ¬ Element none.output.toList ∧
      unchanged.verdict = .ok true ∧ ¬ Element unchanged.output.toList := by
  have none : (run unreached ["run", "--output", "json"] [] bare).output.toList =
      'N' :: "o scenarios found in tests/scenarios\n".toList := by decide +kernel
  have unchanged : (run unreached ["changed", "--run", "--output", "json"] [] bare).output.toList =
      'N' :: "o changed scenarios\n".toList := by decide +kernel
  refine ⟨by decide +kernel, ?_, by decide +kernel, ?_⟩
  · rw [none]
    exact Json.not_element rfl (by simp)
  · rw [unchanged]
    exact Json.not_element rfl (by simp)

end TextScenario.CommandLine
