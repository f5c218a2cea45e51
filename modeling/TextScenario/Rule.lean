import TextScenario.Pattern
/-!
Rules. A rule has patterns and a template; the first rule with a pattern that accepts a line
supplies the template. A rule with any problem is left out whole.
-/

namespace TextScenario

structure RuleSpec where
  name : Option String := none
  patterns : List String := []
  template : Option String := none
  required : List String := []
  deriving DecidableEq, Repr, Inhabited

/-- A rule in use; the required names are sorted and distinct. -/
structure Rule where
  name : String
  patterns : List String
  template : String
  required : List String
  deriving DecidableEq, Repr, Inhabited

/-- A problem of a configuration file, or of one rule in it. -/
structure Issue where
  source : String
  rule : Option (Nat × Option String) := none
  message : String
  deriving DecidableEq, Repr, Inhabited

def Issue.text (issue : Issue) : String :=
  match issue.rule with
  | some (index, some name) =>
    issue.source ++ ": rule " ++ toString index ++ " (" ++ name ++ "): " ++ issue.message
  | some (index, none) => issue.source ++ ": rule " ++ toString index ++ ": " ++ issue.message
  | none => issue.source ++ ": " ++ issue.message

def isBlankText (text : String) : Bool :=
  (Text.trim text.toList).isEmpty

/-- The problems of a rule that show without compiling its patterns. -/
def RuleSpec.problems (spec : RuleSpec) : List String :=
  let captured := spec.patterns.flatMap Pattern.placeholders
  (if spec.name.all isBlankText then ["name must be a non-empty string"] else []) ++
  (if spec.patterns.isEmpty then ["patterns must be a non-empty list"] else []) ++
  (if spec.template.all isBlankText then ["template must be a non-empty string"] else []) ++
  (spec.required.filter (!captured.contains ·)).map fun name =>
    "required parameter `" ++ name ++ "` is not captured by any pattern"

def sortedDistinct (names : List String) : List String :=
  (Json.sortFields (names.map fun name => (name, ()))).map (·.1)

/-- A rule with a matcher for each of its patterns, in the order of the patterns. -/
structure CompiledRule where
  rule : Rule
  matchers : List (String × Matcher)
  declared : matchers.map (·.1) = rule.patterns

structure TranslationConfig where
  fragments : List (String × String) := []
  delimiter : Delimiter := .tilde
  strict : Bool := false
  deriving DecidableEq, Repr, Inhabited

def TranslationConfig.library (config : TranslationConfig) : Library :=
  .ofList config.fragments

namespace RuleSpec

/-- The rule that a spec without problems stands for. -/
def rule (spec : RuleSpec) : Rule where
  name := Text.trimmed (spec.name.getD "")
  patterns := spec.patterns
  template := spec.template.getD ""
  required := sortedDistinct spec.required

section Patterns

variable (spec : RuleSpec) (delimiter : Delimiter) (library : Library) (compiler : PatternCompiler)

/-- The patterns that compile, with their matchers. -/
def matchers : List (String × Matcher) :=
  spec.patterns.filterMap fun pattern =>
    match compiler.compile pattern delimiter library with
    | .ok matcher => some (pattern, matcher)
    | .error _ => none

/-- What is wrong with the patterns that do not compile. -/
def failures : List String :=
  spec.patterns.filterMap fun pattern =>
    match compiler.compile pattern delimiter library with
    | .ok _ => none
    | .error error => some ("pattern `" ++ pattern ++ "`: " ++ error.message)

theorem matchers_declared (compiled : spec.failures delimiter library compiler = []) :
    (spec.matchers delimiter library compiler).map (·.1) = spec.patterns := by
  rw [failures] at compiled
  rw [matchers]
  generalize spec.patterns = patterns at compiled ⊢
  induction patterns with
  | nil => rfl
  | cons pattern rest ih =>
    rw [List.filterMap_cons] at compiled ⊢
    cases result : compiler.compile pattern delimiter library with
    | ok matcher =>
      simp only [result] at compiled ⊢
      rw [List.map_cons, ih compiled]
    | error error => simp [result] at compiled

end Patterns

/-- Checks a rule and compiles its patterns; all its problems are reported together. -/
def compile (spec : RuleSpec) (source : String) (index : Nat) (delimiter : Delimiter)
    (library : Library) (compiler : PatternCompiler) : Except (List Issue) CompiledRule :=
  let problems := spec.problems ++ spec.failures delimiter library compiler
  if clean : problems = [] then
    .ok
      { rule := spec.rule
        matchers := spec.matchers delimiter library compiler
        declared :=
          spec.matchers_declared delimiter library compiler (List.append_eq_nil_iff.mp clean).2 }
  else .error (problems.map fun message => { source, rule := some (index, spec.name), message })

/-- What is wrong with a rule that was left out. -/
def refusals : Except (List Issue) CompiledRule → List Issue
  | .error issues => issues
  | .ok _ => []

end RuleSpec

/-- The rule and the pattern that accepted a line, with what the pattern captured. -/
structure RuleMatch where
  rule : Rule
  pattern : String
  parameters : Parameters

structure Candidate where
  rule : String
  pattern : String
  expression : String
  deriving DecidableEq, Repr

/-- Compiled rules in order of precedence, with the configuration they came from. -/
structure RuleBook where
  rules : List CompiledRule := []
  library : Library := {}
  delimiter : Delimiter := .tilde
  strict : Bool := false
  issues : List Issue := []
  deriving Inhabited

namespace RuleBook

def firstMatch? (compiled : CompiledRule) (line : String) : Option RuleMatch :=
  compiled.matchers.findSome? fun (pattern, matcher) =>
    (matcher.captures? line).map fun parameters => { rule := compiled.rule, pattern, parameters }

/-- The first pattern of the first rule that accepts the trimmed text. -/
def find? (book : RuleBook) (text : String) : Option RuleMatch :=
  book.rules.findSome? fun compiled => firstMatch? compiled (Text.trimmed text)

/-- All pairs that accept the trimmed text, in order of precedence. -/
def candidates (book : RuleBook) (text : String) : List Candidate :=
  let line := Text.trimmed text
  book.rules.flatMap fun compiled =>
    (compiled.matchers.filter fun (_, matcher) => matcher.accepts line).map
      fun (pattern, matcher) =>
        { rule := compiled.rule.name, pattern, expression := matcher.expression }

/-- Compiles numbered rules, putting their issues after those that are known already. -/
def build (source : String) (entries : List (Nat × RuleSpec)) (config : TranslationConfig)
    (known : List Issue) (strict : Option Bool) (compiler : PatternCompiler) : RuleBook :=
  let library := config.library
  let results := entries.map fun (index, spec) =>
    spec.compile source index config.delimiter library compiler
  { rules := results.filterMap Except.toOption
    library
    delimiter := config.delimiter
    strict := strict.getD config.strict
    issues := known ++ results.flatMap RuleSpec.refusals }

end RuleBook

end TextScenario
