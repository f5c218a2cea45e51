import TextScenario.Scenario.Parser
/-!
Scenarios as they are written. A case is a header line and a list of items, and each item is a
comment line, a step line or a block. What the cases mean is said item by item, without the
reader's draft.
-/

namespace TextScenario.Scenario

/-- Text on one line with no blanks at its ends. -/
structure Phrase where
  text : List Char
  trimmed : Text.trim text = text
  nonempty : text ≠ []
  oneLine : '\n' ∉ text

/-- A phrase that can stand as a step: it is neither a separator nor the start of a block. -/
structure Instruction extends Phrase where
  noSeparator : ¬ ['-', '-', '-'] <+: text
  noMarker : text ≠ blockOpenMarker

/-- A line inside a block, which is kept as it stands. -/
structure BlockLine where
  text : List Char
  oneLine : '\n' ∉ text
  noReturn : text.getLast? ≠ some '\r'
  noMarker : Text.trim text ≠ blockCloseMarker

inductive Item where
  | comment (note : Phrase)
  | step (action : Instruction) (note : Option Phrase)
  | block (first : BlockLine) (rest : List BlockLine)

/-- How a case begins. Only a separator needs a case before it. -/
inductive Header where
  | titled (title : Phrase)
  | bare
  | separator

structure WrittenCase where
  header : Header
  items : List Item

/-- A backslash before every `#`. -/
def escape (text : List Char) : List Char :=
  text.flatMap fun char => if char = '#' then ['\\', '#'] else [char]

def Phrase.commentLine (note : Phrase) : List Char :=
  '#' :: ' ' :: note.text

def Header.line : Header → List Char
  | .titled title => '#' :: '#' :: ' ' :: title.text
  | .bare => ['#', '#']
  | .separator => ['-', '-', '-']

def Item.lines : Item → List (List Char)
  | .comment note => [note.commentLine]
  | .step action none => [escape action.text]
  | .step action (some note) => [escape action.text ++ ' ' :: note.commentLine]
  | .block first rest => blockOpenMarker :: ((first :: rest).map BlockLine.text ++ [blockCloseMarker])

def WrittenCase.lines (case : WrittenCase) : List (List Char) :=
  case.header.line :: case.items.flatMap Item.lines

/-- The text of a scenario, every line ended by a line break. -/
def write (cases : List WrittenCase) : String :=
  String.ofList ((cases.flatMap WrittenCase.lines).flatMap (· ++ ['\n']))

/-- The name of the case at a place, which is counted from one. -/
def Header.name (place : Nat) : Header → String
  | .titled title => String.ofList title.text
  | .bare | .separator => "Untitled case " ++ toString place

def Item.comment? : Item → Option String
  | .comment note => some (String.ofList note.text)
  | .step _ _ | .block _ _ => none

/-- The steps of the items. A step without a comment of its own takes the last comment line since
the step before it. -/
def stepsOf (environment : Environment) : Option String → List Item → List Step
  | _, [] => []
  | _, .comment note :: rest => stepsOf environment (some (String.ofList note.text)) rest
  | pending, .step action note :: rest =>
    let own := note.map fun note => environment.expand (String.ofList note.text)
    { action := environment.expand (String.ofList action.text)
      comment := own.orElse fun _ => pending } :: stepsOf environment none rest
  | pending, .block first rest :: items =>
    { action := String.ofList (Text.joinWith '\n' ((first :: rest).map BlockLine.text))
      comment := pending
      isMultiline := true } :: stepsOf environment none items

/-- The case that is meant, when it is the one at the given place. -/
def WrittenCase.meaning (environment : Environment) (place : Nat) (case : WrittenCase) : Case where
  name := case.header.name place
  comments := case.items.filterMap Item.comment?
  steps := stepsOf environment none case.items

end TextScenario.Scenario
