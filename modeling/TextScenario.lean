import TextScenario.CommandLine.Program
import TextScenario.Main
import TextScenario.Proofs.CacheEntries
import TextScenario.Proofs.CacheRoundTrip
import TextScenario.Proofs.CacheSaving
import TextScenario.Proofs.CacheStorage
import TextScenario.Proofs.ChangeMarks
import TextScenario.Proofs.ChangedCommand
import TextScenario.Proofs.ConfigurationCheck
import TextScenario.Proofs.ExecutorOperations
import TextScenario.Proofs.FailedMarks
import TextScenario.Proofs.FileChanges
import TextScenario.Proofs.FileLeads
import TextScenario.Proofs.FileNames
import TextScenario.Proofs.FileTrees
import TextScenario.Proofs.ParsedSteps
import TextScenario.Proofs.PatternCaptures
import TextScenario.Proofs.PatternCuts
import TextScenario.Proofs.PatternMeaning
import TextScenario.Proofs.PatternReading
import TextScenario.Proofs.PatternSearch
import TextScenario.Proofs.RegexChains
import TextScenario.Proofs.RegexPlaces
import TextScenario.Proofs.RuleCandidates
import TextScenario.Proofs.RuleComposition
import TextScenario.Proofs.RulePlaces
import TextScenario.Proofs.RunCancellation
import TextScenario.Proofs.RunReports
import TextScenario.Proofs.RunVerdict
import TextScenario.Proofs.ScenarioConcatenation
import TextScenario.Proofs.ScenarioListings
import TextScenario.Proofs.ScenarioRoundTrip
import TextScenario.Proofs.ScenarioValues
import TextScenario.Proofs.StrictRuns
import TextScenario.Proofs.TranslatorReloads
import TextScenario.Proofs.WatchBatches
import TextScenario.Proofs.WatchRecords
import TextScenario.Proofs.WatchTrace
import TextScenario.Proofs.WatchVersions
import TextScenario.Session.Faults
import TextScenario.Proofs.StepActions
import TextScenario.Proofs.PatternFragments
import TextScenario.Proofs.PlaceholderValues
import TextScenario.Proofs.TranslationPreviews
import TextScenario.Proofs.JsonDepths
import TextScenario.Proofs.CacheAtomicity
import TextScenario.Proofs.ForgottenFiles
import TextScenario.Proofs.RequestRoutes
import TextScenario.Proofs.TemplateRendering
import TextScenario.Proofs.ScenarioLayout
import TextScenario.Proofs.BlankTexts
import TextScenario.Proofs.ConfigurationReports
import TextScenario.Proofs.LowerCase
import TextScenario.Proofs.SharedWorkflows
import TextScenario.Proofs.StructuredOutput
import TextScenario.Proofs.LibraryAnchors
import TextScenario.Proofs.PatternGroups
