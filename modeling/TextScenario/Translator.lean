import TextScenario.Configuration
import TextScenario.Translation
/-!
A translator holds the rule book in use together with where it comes from, so that the rules can
be read again while steps are being translated.
-/

namespace TextScenario

inductive RuleSource where
  | directory (path : String)
  | inline (rules : List RuleSpec) (config : TranslationConfig)

namespace RuleSource

def label : RuleSource → String
  | .directory path => Configuration.rulesPath path
  | .inline _ _ => "inline"

def contents (files : FileSystem) : RuleSource → Configuration.Contents
  | .directory path => Configuration.read files path
  | .inline rules config =>
    { config, listing := { entries := rules.zipIdx.map fun (spec, index) => (index, spec) } }

/-- The book that the files make up as they stand. -/
def book (source : RuleSource) (files : FileSystem) (strict : Option Bool)
    (compiler : PatternCompiler) : RuleBook :=
  let contents := source.contents files
  RuleBook.build source.label contents.listing.entries contents.config contents.listing.issues strict
    compiler

end RuleSource

structure Translator where
  source : RuleSource
  /-- Takes precedence over the configuration. -/
  strict : Option Bool := none
  environment : Environment := .empty
  compiler : PatternCompiler := .regular
  book : RuleBook := {}

/-- What reading the rules came to. -/
structure ReloadSummary where
  rules : Nat
  issues : List Issue
  deriving DecidableEq, Repr

namespace Translator

/-- Reads the rules again. The old book is replaced as a whole. -/
def reload (translator : Translator) (files : FileSystem) : Translator :=
  { translator with book := translator.source.book files translator.strict translator.compiler }

def load (files : FileSystem) (source : RuleSource) (strict : Option Bool)
    (environment : Environment) (compiler : PatternCompiler := .regular) : Translator :=
  ({ source, strict, environment, compiler } : Translator).reload files

def ruleCount (translator : Translator) : Nat :=
  translator.book.rules.length

def summary (translator : Translator) : ReloadSummary where
  rules := translator.ruleCount
  issues := translator.book.issues

/-- Translates text in which variables are put in first. -/
def translate (translator : Translator) (text : String) : Except MissingParameters Translation :=
  translator.book.translate text (translator.environment.expand text)

def translateExpanded (translator : Translator) (text : String) :
    Except MissingParameters Translation :=
  translator.book.translate text text

def candidates (translator : Translator) (text : String) : List Candidate :=
  translator.book.candidates (translator.environment.expand text)

end Translator

end TextScenario
