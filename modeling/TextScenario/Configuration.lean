import TextScenario.FileSystem
import TextScenario.Rule
import TextScenario.Yaml.Field
/-!
Configuration directories. `core.yaml` says what rules share, and `translation-rules.yaml` lists
the rules. Reading never fails: what cannot be used becomes an issue.
-/

namespace TextScenario

/-- Why a configuration file cannot be used at all. -/
inductive ConfigFileError where
  | unreadable (error : FileError)
  | malformed
  deriving DecidableEq, Repr

def ConfigFileError.message : ConfigFileError → String
  | .unreadable error => error.message
  | .malformed => "<yaml>"

def ConfigFileError.issue (error : ConfigFileError) (source : String) : Issue :=
  { source, message := error.message }

namespace RuleSpec

private def texts? (value : Yaml.Value) : Option (List String) :=
  match value.untagged with
  | .null => some []
  | value => value.items?.bind (·.mapM Yaml.Value.text?)

private def fieldsOf? (value : Yaml.Value) : Option (List (String × Yaml.Value)) :=
  match value.untagged with
  | .null => some []
  | value => value.entries?.bind (·.mapM fun (key, value) => key.text?.map (·, value))

private def field? {α : Type} (fields : List (String × Yaml.Value)) (name : String) (fallback : α)
    (decode : Yaml.Value → Option α) : Option α :=
  match fields.filter (·.1 == name) with
  | [] => some fallback
  | [(_, value)] => decode value
  | _ => none

private def nullableText? : Yaml.Value → Option (Option String)
  | .null => some none
  | value => value.text?.map some

/-- Reads a rule. Names and patterns must be text; null stands for an empty list. -/
def ofValue? (value : Yaml.Value) : Option RuleSpec := do
  let fields ← fieldsOf? value
  let name ← field? fields "name" none nullableText?
  let patterns ← field? fields "patterns" [] texts?
  let template ← field? fields "template" none nullableText?
  let required ← field? fields "validation" [] fun validation => do
    field? (← fieldsOf? validation) "required" [] texts?
  some { name, patterns, template, required }

end RuleSpec

namespace TranslationConfig

def ofNode? (tree : Yaml.Tree) (node : Yaml.Node) : Option TranslationConfig := do
  let fields ← tree.fields? node
  let fragments ← fields.read? "paramPatterns" [] fun node => do
    let entries ← (← tree.fields? node).mapM fun (name, node) => (tree.text? node).map (name, ·)
    some (Json.sortFields entries)
  let delimiter ← fields.read? "delimiter" .tilde fun node => (tree.choice? node).bind Delimiter.ofName?
  let strict ← fields.read? "strict" false tree.bool?
  some { fragments, delimiter, strict }

/-- Reads the text of a core file. A blank text leaves everything at its default. -/
def ofText? (text : String) : Option TranslationConfig :=
  if isBlankText text then some {}
  else do
    let tree ← Yaml.read? text
    let fields ← tree.rootFields?
    fields.read? "translation" {} (ofNode? tree)

end TranslationConfig

namespace Configuration

def corePath (directory : String) : String :=
  FilePath.join directory "core.yaml"

def rulesPath (directory : String) : String :=
  FilePath.join directory "translation-rules.yaml"

/-- The text of a file, or nothing if there is no such file. -/
def readOptional (files : FileSystem) (path : String) : Except ConfigFileError (Option String) :=
  match files.readText path with
  | .ok text => .ok (some text)
  | .error .notFound => .ok none
  | .error error => .error (.unreadable error)

/-- What a file says, or nothing if there is no such file. -/
def readAs {α : Type} (decode : String → Option α) (files : FileSystem) (path : String) :
    Except ConfigFileError (Option α) := do
  match ← readOptional files path with
  | none => .ok none
  | some text =>
    match decode text with
    | some content => .ok (some content)
    | none => .error .malformed

def readCore : FileSystem → String → Except ConfigFileError (Option TranslationConfig) :=
  readAs TranslationConfig.ofText?

def readRules : FileSystem → String → Except ConfigFileError (Option Yaml.Value) :=
  readAs fun text => (Yaml.read? text).bind Yaml.Tree.toValue?

def listed? (document : Yaml.Value) : Option (List Yaml.Value) :=
  (document.get? "rules").bind Yaml.Value.items?

def entryOf (source : String) (index : Nat) (value : Yaml.Value) : Except Issue (Nat × RuleSpec) :=
  match value.entries?, RuleSpec.ofValue? value with
  | none, _ => .error { source, rule := some (index, none), message := "rule must be a mapping" }
  | some _, some spec => .ok (index, spec)
  | some _, none =>
    .error
      { source
        rule := some (index, (value.get? "name").bind Yaml.Value.text?)
        message := "malformed rule: <detail>" }

/-- Numbered rules with what is wrong with the others. -/
structure Listing where
  entries : List (Nat × RuleSpec) := []
  issues : List Issue := []

def Listing.ofDocument (source : String) (document : Yaml.Value) : Listing :=
  match listed? document with
  | none => { issues := [{ source, message := "missing `rules` list" }] }
  | some values =>
    let results := values.zipIdx.map fun (value, index) => entryOf source index value
    { entries := results.filterMap Except.toOption
      issues := results.filterMap fun
        | .error issue => some issue
        | .ok _ => none }

structure Contents where
  config : TranslationConfig := {}
  listing : Listing := {}

/-- Reads a directory for use. Missing files are fine: without rules every step goes to the
agent. -/
def read (files : FileSystem) (directory : String) : Contents :=
  let (config, coreIssues) :=
    match readCore files (corePath directory) with
    | .ok config => (config.getD {}, [])
    | .error error => ({}, [error.issue (corePath directory)])
  let listing : Listing :=
    match readRules files (rulesPath directory) with
    | .ok none => {}
    | .ok (some document) => Listing.ofDocument (rulesPath directory) document
    | .error error => { issues := [error.issue (rulesPath directory)] }
  { config, listing := { listing with issues := coreIssues ++ listing.issues } }

/-- The issues of a list that has no element at all. -/
def emptyListIssues (source : String) (document : Yaml.Value) : List Issue :=
  match listed? document with
  | some [] => [{ source, message := "`rules` list is empty" }]
  | _ => []

/-- How many rules compile, with all issues of the directory. Here missing files and an empty list
count as issues. -/
def check (files : FileSystem) (directory : String) : Nat × List Issue :=
  let missing (source : String) : Issue := { source, message := "file is missing" }
  let (config, coreIssues) :=
    match readCore files (corePath directory) with
    | .ok (some config) => (config, [])
    | .ok none => ({}, [missing (corePath directory)])
    | .error error => ({}, [error.issue (corePath directory)])
  match readRules files (rulesPath directory) with
  | .ok none => (0, coreIssues ++ [missing (rulesPath directory)])
  | .error error => (0, coreIssues ++ [error.issue (rulesPath directory)])
  | .ok (some document) =>
    let listing := Listing.ofDocument (rulesPath directory) document
    let results := listing.entries.map fun (index, spec) =>
      spec.compile (rulesPath directory) index config.delimiter config.library .regular
    (results.countP Except.isOk,
      coreIssues ++ listing.issues ++ emptyListIssues (rulesPath directory) document ++
        results.flatMap RuleSpec.refusals)

def problemText (issues : List Issue) : String :=
  "configuration has " ++ toString issues.length ++ " problem(s):\n - " ++
    String.intercalate "\n - " (issues.map Issue.text)

/-- The number of rules of a valid directory, or all its issues. -/
def validate (files : FileSystem) (directory : String) : Except (List Issue) Nat :=
  match check files directory with
  | (valid, []) => .ok valid
  | (_, issues) => .error issues

end Configuration

end TextScenario
