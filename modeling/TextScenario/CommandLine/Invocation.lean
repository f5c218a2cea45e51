import TextScenario.Change.Timeline
import TextScenario.CommandLine.Grammar
import TextScenario.CommandLine.Output
import TextScenario.Settings
/-!
Invocations. The options that bear on settings, logging and output go with every command.
-/

namespace TextScenario.CommandLine

def programName : String := "text-tester"
def programVersion : String := "1.0.0"

inductive Command where
  /-- Runs the given files, or all scenarios if none are given. -/
  | run (files : List String) (dryRun : Bool)
  | changed
  | runChanged (dryRun : Bool)
  | translate (text : String)
  | parse (file : String)
  | watch (options : MonitorOptions) (dryRun : Bool)
  | viewConfig
  | validateConfig
  | info
  deriving Repr

structure Invocation where
  settings : Settings.Options
  logLevel : String
  /-- Logs everything, whatever the log level says. -/
  debug : Bool
  output : OutputFormat
  command : Command
  deriving Repr

namespace Invocation

def dryRunOption : OptionSpec := { name := "dry-run" }

def generalOptions : List OptionSpec :=
  [{ name := "config-dir", kind := some .path },
   { name := "scenarios-dir", kind := some .path },
   { name := "cache-file", kind := some .path },
   { name := "log-level", short := some 'l', kind := some .text },
   { name := "debug", short := some 'd' },
   { name := "log-format", kind := some (.choice ["text", "json"]) },
   { name := "output", short := some 'o', kind := some (.choice OutputFormat.names) }]

def numberOf (values : Values) (name : String) (fallback : Nat) : Nat :=
  ((values.get? name).bind (number? greatestNumber)).getD fallback

/-- The polling interval is at least a millisecond. -/
def monitorOptions (values : Values) : MonitorOptions :=
  let standard : MonitorOptions := {}
  { pollInterval := max 1 (numberOf values "poll-ms" standard.pollInterval)
    debounce := numberOf values "debounce-ms" standard.debounce }

/-- Builds an invocation from the command's own values and the general ones. -/
def ofValues (command : Values → Command) (values : Values) : Invocation where
  settings :=
    { configDirectory := values.get? "config-dir"
      scenariosDirectory := values.get? "scenarios-dir"
      cacheFile := values.get? "cache-file" }
  logLevel := (values.get? "log-level").getD "info"
  debug := values.has "debug"
  output := ((values.get? "output").bind OutputFormat.ofName?).getD .human
  command := command values

def leaf (command : Values → Command) (options : List OptionSpec := [])
    (operand : Option Operand := none) : Grammar Invocation :=
  .command options operand (ofValues command)

def grammar : Grammar Invocation :=
  .group
    [("run",
      leaf (fun values => .run (values.all "files") (values.has "dry-run"))
        [dryRunOption] (some { name := "files", kind := .path, many := true })),
     ("changed",
      leaf
        (fun values => if values.has "run" then .runChanged (values.has "dry-run") else .changed)
        [{ name := "run" }, dryRunOption]),
     ("translate",
      leaf (fun values => .translate ((values.get? "text").getD ""))
        [] (some { name := "text", kind := .text })),
     ("parse",
      leaf (fun values => .parse ((values.get? "file").getD ""))
        [] (some { name := "file", kind := .path })),
     ("watch",
      leaf (fun values => .watch (monitorOptions values) (values.has "dry-run"))
        [{ name := "poll-ms", kind := some .number },
         { name := "debounce-ms", kind := some .number },
         dryRunOption]),
     ("config",
      .group
        [("view", leaf fun _ => .viewConfig), ("validate", leaf fun _ => .validateConfig)]),
     ("info", leaf fun _ => .info)]

def ofArguments (arguments : List String) : Except UsageError Invocation :=
  grammar.parse programName generalOptions arguments

end Invocation

end TextScenario.CommandLine
