import TextScenario.Text.Blank
import TextScenario.Text.Braced
import TextScenario.Text.Lines
import TextScenario.Text.Word
/-!
Templates. A template is text with placeholders; rendering puts parameter values in their place
and leaves a placeholder without a value as it is.
-/

namespace TextScenario

/-- Captured values by name, sorted by name; a name whose group took no part has no value. -/
abbrev Parameters := List (String × Option String)

inductive ActionKind where
  | act
  | extract
  | agent
  deriving DecidableEq, Repr, Inhabited

def ActionKind.text : ActionKind → String
  | .act => "act"
  | .extract => "extract"
  | .agent => "agent"

def Parameters.value? (parameters : Parameters) (name : String) : Option String :=
  (parameters.lookup name).join

namespace Template

/-- Placeholder names are runs of word characters. -/
def nameRule : Text.NameRule := { starts := Text.isWord, member := Text.isWord }

def pieces (template : String) : List Text.Piece :=
  Text.pieces nameRule template.toList

def renderPiece (parameters : Parameters) : Text.Piece → List Char
  | .char char => [char]
  | .placeholder name =>
    match parameters.value? (String.ofList name) with
    | some value => value.toList
    | none => (Text.Piece.placeholder name).source

/-- Values are put in as they are and not looked at again. -/
def render (template : String) (parameters : Parameters) : String :=
  String.ofList ((pieces template).flatMap (renderPiece parameters))

def distinct (names : List String) : List String :=
  names.foldl (fun seen name => if seen.contains name then seen else seen ++ [name]) []

/-- The names that a template uses, each once, in order of first use. -/
def placeholders (template : String) : List String :=
  distinct ((pieces template).filterMap fun piece => piece.name?.map String.ofList)

/-- Whether `extract` starts a word here and is followed by `(` or `:`, blanks aside. -/
def startsExtract (text : List Char) : Bool :=
  match Text.strip? "extract".toList text with
  | none => false
  | some rest =>
    match Text.trimLeft rest with
    | char :: _ => char == '(' || char == ':'
    | [] => false

def mentionsExtract (previous : Option Char) : List Char → Bool
  | [] => false
  | char :: rest =>
    (!previous.any Text.isWord && startsExtract (char :: rest)) || mentionsExtract (some char) rest

/-- A template that calls `extract` extracts; every other one acts. -/
def actionKind (template : String) : ActionKind :=
  if mentionsExtract none template.toList then .extract else .act

/-- The required names that have no value or a blank one. -/
def missing (required : List String) (parameters : Parameters) : List String :=
  required.filter fun name =>
    !(parameters.value? name).any fun value => !(Text.trim value.toList).isEmpty

end Template

end TextScenario
