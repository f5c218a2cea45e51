import TextScenario.Configuration
import TextScenario.Environment
/-!
Settings of a run. Options come first, then variables, then `core.yaml`, then defaults.
-/

namespace TextScenario

structure ExecutionConfig where
  stepTimeout : Nat := 120000
  cacheDirectory : String := "cache"
  sessionEndpoint : Option String := none
  deriving DecidableEq, Repr, Inhabited

namespace ExecutionConfig

/-- A timeout of zero milliseconds is none. -/
def timeout? (config : ExecutionConfig) : Option Nat :=
  if config.stepTimeout = 0 then none else some config.stepTimeout

def ofNode? (tree : Yaml.Tree) (node : Yaml.Node) : Option ExecutionConfig := do
  let fields ← tree.fields? node
  let standard : ExecutionConfig := {}
  let stepTimeout ← fields.read? "stepTimeoutMs" standard.stepTimeout tree.unsigned?
  let cacheDirectory ← fields.read? "cacheDir" standard.cacheDirectory tree.text?
  let sessionEndpoint ← fields.read? "sessionEndpoint" standard.sessionEndpoint tree.nullableText?
  some { stepTimeout, cacheDirectory, sessionEndpoint }

def ofText? (text : String) : Option ExecutionConfig :=
  if isBlankText text then some {}
  else do
    let tree ← Yaml.read? text
    let fields ← tree.rootFields?
    fields.read? "execution" {} (ofNode? tree)

end ExecutionConfig

structure Settings where
  configDirectory : String
  scenariosDirectory : String
  cacheFile : String
  execution : ExecutionConfig
  strict : Option Bool
  deriving DecidableEq, Repr, Inhabited

/-- Why the settings of a configuration directory cannot be read. -/
inductive SettingsError where
  | unreadable (path : String) (error : FileError)
  | malformed (path : String)
  deriving DecidableEq, Repr

def SettingsError.message : SettingsError → String
  | .unreadable path _ => "failed to read " ++ path
  | .malformed path => "failed to parse " ++ path

def SettingsError.causes : SettingsError → List String
  | .unreadable _ error => [error.message]
  | .malformed _ => []

namespace Settings

def configVariable : String := "TEXT_TESTER_CONFIG_DIR"
def strictVariable : String := "TEXT_TESTER_STRICT"
def endpointVariable : String := "TEXT_TESTER_SESSION_ENDPOINT"

def defaultConfigDirectory : String := "config"
def defaultScenariosDirectory : String := "tests/scenarios"
def defaultCacheFile : String := ".text-tester-cache.json"

/-- A switch in words; anything else is no answer. -/
def switch? (text : String) : Option Bool :=
  let word := (Text.trimmed text).map Char.toLower
  if ["1", "true", "yes", "on"].contains word then some true
  else if ["0", "false", "no", "off"].contains word then some false
  else none

/-- A missing core file leaves everything at its default. -/
def readExecution (files : FileSystem) (directory : String) :
    Except SettingsError ExecutionConfig :=
  let path := Configuration.corePath directory
  if !files.exists? path then .ok {}
  else match files.readText path with
    | .error error => .error (.unreadable path error)
    | .ok text =>
      match ExecutionConfig.ofText? text with
      | some config => .ok config
      | none => .error (.malformed path)

/-- The options of a run that bear on its settings. -/
structure Options where
  configDirectory : Option String := none
  scenariosDirectory : Option String := none
  cacheFile : Option String := none
  deriving DecidableEq, Repr, Inhabited

/-- A variable that is set and not empty. -/
def nonEmpty? (environment : Environment) (name : String) : Option String :=
  (environment.get? name).filter (!·.isEmpty)

def resolve (files : FileSystem) (environment : Environment) (options : Options) :
    Except SettingsError Settings := do
  let configDirectory :=
    (options.configDirectory.orElse fun _ => nonEmpty? environment configVariable).getD
      defaultConfigDirectory
  let execution ← readExecution files configDirectory
  let endpoint := (nonEmpty? environment endpointVariable).orElse fun _ => execution.sessionEndpoint
  .ok
    { configDirectory
      scenariosDirectory := options.scenariosDirectory.getD defaultScenariosDirectory
      cacheFile := options.cacheFile.getD defaultCacheFile
      execution := { execution with sessionEndpoint := endpoint }
      strict := (environment.get? strictVariable).bind switch? }

end Settings

end TextScenario
