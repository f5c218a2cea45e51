import TextScenario.Json.Printer
import TextScenario.Yaml.Printer
/-!
Output formats. Structured output is one document, and ends its last line.
-/

namespace TextScenario.CommandLine

inductive OutputFormat where
  | human
  | json
  | yaml
  deriving DecidableEq, Repr, Inhabited

namespace OutputFormat

def names : List String := ["human", "json", "yaml"]

def ofName? : String → Option OutputFormat
  | "human" => some .human
  | "json" => some .json
  | "yaml" => some .yaml
  | _ => none

/-- A structured document; without a choice of format it is JSON. -/
def document (format : OutputFormat) (json : Json) : String :=
  match format with
  | .yaml => Yaml.document json
  | .json | .human => json.pretty ++ "\n"

end OutputFormat

def textOfLines (lines : List String) : String :=
  String.join (lines.map (· ++ "\n"))

end TextScenario.CommandLine
