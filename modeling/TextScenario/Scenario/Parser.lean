import TextScenario.Environment
import TextScenario.Scenario.Document
import TextScenario.Text.Blank
/-!
Reading scenarios line by line. `##` opens a case, `#` a comment, `---` a case without a title,
and `"+"` a block of lines that ends at `"-"` and becomes one step. Every other line of a case is
a step. Reading never fails.
-/

namespace TextScenario.Scenario

/-- What a line outside blocks says, once its ends are trimmed. -/
inductive Line where
  | blank
  | blockOpen
  | title (name : List Char)
  | comment (text : List Char)
  | separator
  | action (text : List Char)
  deriving DecidableEq, Repr

def blockOpenMarker : List Char := ['"', '+', '"']
def blockCloseMarker : List Char := ['"', '-', '"']

/-- The title after `##`, which must stand alone or before a blank. -/
def caseTitle? : List Char → Option (List Char)
  | '#' :: '#' :: [] => some []
  | '#' :: '#' :: char :: rest => if Text.isBlank char then some (Text.trim (char :: rest)) else none
  | _ => none

def Line.ofTrimmed (text : List Char) : Line :=
  if text = blockOpenMarker then .blockOpen
  else if text = [] then .blank
  else match caseTitle? text with
    | some name => .title name
    | none =>
      match text with
      | '#' :: rest => .comment (Text.trim rest)
      | '-' :: '-' :: '-' :: _ => .separator
      | _ => .action text

/-- Cuts a line at its first `#` that has no backslash before it and text after it. -/
def splitComment : List Char → List Char × Option (List Char)
  | [] => ([], none)
  | '\\' :: '#' :: rest =>
    let (action, comment) := splitComment rest
    ('#' :: action, comment)
  | '#' :: rest =>
    match Text.trim rest with
    | [] => ('#' :: rest, none)
    | comment => ([], some comment)
  | char :: rest =>
    let (action, comment) := splitComment rest
    (char :: action, comment)

def inlineComment (line : List Char) : List Char × Option (List Char) :=
  let (action, comment) := splitComment line
  (Text.trim action, comment)

/-- The cases read so far. A pending comment goes to the next step without one of its own. -/
structure Draft where
  closed : List Case := []
  current : Option Case := none
  pending : Option String := none
  block : Option (List (List Char)) := none
  deriving Inhabited

namespace Draft

def empty : Draft := {}

/-- All cases, the open one last. -/
def cases (draft : Draft) : List Case :=
  draft.closed ++ draft.current.toList

def untitledName (draft : Draft) : String :=
  "Untitled case " ++ toString (draft.cases.length + 1)

def openCase (draft : Draft) (name : String) : Draft :=
  { closed := draft.cases, current := some { name } }

def addStep (draft : Draft) (step : Step) : Draft :=
  { draft with
    current := draft.current.map fun case => { case with steps := case.steps ++ [step] }
    pending := none }

/-- A comment belongs to the open case, if it says anything. -/
def addComment (draft : Draft) (text : List Char) : Draft :=
  match draft.current, text with
  | some case, _ :: _ =>
    let text := String.ofList text
    { draft with
      current := some { case with comments := case.comments ++ [text] }
      pending := some text }
  | _, _ => draft

/-- A block with lines becomes a step of the open case; one outside any case is dropped. -/
def closeBlock (draft : Draft) (lines : List (List Char)) : Draft :=
  let draft := { draft with block := none }
  if lines.isEmpty ∨ draft.current.isNone then draft
  else draft.addStep
    { action := String.ofList (Text.joinWith '\n' lines)
      comment := draft.pending
      isMultiline := true }

def addAction (environment : Environment) (draft : Draft) (text : List Char) : Draft :=
  let (action, comment) := inlineComment text
  let action := environment.expandChars action
  if action.isEmpty then { draft with pending := none }
  else
    let comment := comment.map fun text => String.ofList (environment.expandChars text)
    draft.addStep { action := String.ofList action, comment := comment.orElse fun _ => draft.pending }

def take (environment : Environment) (draft : Draft) : Line → Draft
  | .blank => draft
  | .blockOpen => { draft with block := some [] }
  | .title [] => draft.openCase draft.untitledName
  | .title name => draft.openCase (String.ofList name)
  | .comment text => draft.addComment text
  | .separator => if draft.current.isSome then draft.openCase draft.untitledName else draft
  | .action text => if draft.current.isSome then draft.addAction environment text else draft

/-- Takes one raw line. Inside a block only the close marker is special. -/
def feed (environment : Environment) (draft : Draft) (line : List Char) : Draft :=
  let line := Text.dropReturn line
  let trimmed := Text.trim line
  match draft.block with
  | some lines =>
    if trimmed = blockCloseMarker then draft.closeBlock lines
    else { draft with block := some (lines ++ [line]) }
  | none => draft.take environment (.ofTrimmed trimmed)

/-- A block that is never closed counts as closed at the end. -/
def finish (draft : Draft) : List Case :=
  match draft.block with
  | some lines => (draft.closeBlock lines).cases
  | none => draft.cases

end Draft

def parseChars (environment : Environment) (content : List Char) : List Case :=
  ((Text.lines content).foldl (Draft.feed environment) Draft.empty).finish

def parse (environment : Environment) (content : String) : List Case :=
  parseChars environment content.toList

end TextScenario.Scenario
