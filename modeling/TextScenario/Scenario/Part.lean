import TextScenario.Scenario.Parser
/-!
What stands in the text of a scenario, before anything is read into cases: single lines, and blocks
with the lines between their markers.
-/

namespace TextScenario.Scenario

def caseMarker : List Char := ['#', '#']
def separatorMarker : List Char := ['-', '-', '-']

/-- A line outside blocks with its ends trimmed, or the raw lines of a block. -/
inductive Part where
  | line (text : List Char)
  | block (lines : List (List Char))
  deriving DecidableEq, Repr

/-- Whether a line does not end the block it is in. -/
def staysInside (line : List Char) : Bool :=
  Text.trim line != blockCloseMarker

/-- Cuts lines into parts. A block that is never closed goes on to the end. -/
def parts : List (List Char) → List Part
  | [] => []
  | line :: rest =>
    if Text.trim line = blockOpenMarker then
      .block (rest.takeWhile staysInside) :: parts ((rest.dropWhile staysInside).drop 1)
    else .line (Text.trim line) :: parts rest
termination_by lines => lines.length
decreasing_by
  all_goals
    have shorter := (List.dropWhile_suffix staysInside (l := rest)).length_le
    simp only [List.length_cons, List.length_drop]
    omega

namespace Part

/-- `##` alone or before a blank. -/
def isHeader : Part → Bool
  | .line text => caseMarker.isPrefixOf text && (text.drop 2).head?.all Text.isBlank
  | .block _ => false

def isComment : Part → Bool
  | .line text => text.head? == some '#'
  | .block _ => false

/-- Whether a part is written as a step: a block with lines in it, or a line that says something and
is no header, no comment and not the separator. -/
def isStep : Part → Bool
  | .line text =>
    !text.isEmpty && !(Part.line text).isHeader && !(Part.line text).isComment &&
      text != separatorMarker
  | .block lines => !lines.isEmpty

/-- Whether a line begins with the separator and says more. -/
def isTrailedSeparator : Part → Bool
  | .line text => separatorMarker.isPrefixOf text && text != separatorMarker
  | .block _ => false

/-- Whether a block has nothing in it but one empty line. -/
def isHollow : Part → Bool
  | .line _ => false
  | .block lines => lines.map Text.dropReturn == [[]]

/-- The parts after the first header, which opens the first case. -/
def insideCases (parts : List Part) : List Part :=
  (parts.dropWhile (!·.isHeader)).drop 1

end Part

/-- The parts of a text that belong to a case. -/
def caseParts (content : String) : List Part :=
  Part.insideCases (parts (Text.lines content.toList))

/-- Whether a text is empty or ends with a line break. -/
def endsLine (text : String) : Bool :=
  text.toList.getLast?.all (· == '\n')

/-- Whether a block is open after a line, told from whether one was open before it. -/
def insideAfter (inside : Bool) (line : List Char) : Bool :=
  if inside then staysInside line else Text.trim line == blockOpenMarker

def endsInsideBlock (text : String) : Bool :=
  (Text.lines text.toList).foldl insideAfter false

/-- The title of the case that a part opens when it is in a case itself; it is empty for a case without
a title. -/
def Part.opening? : Part → Option (List Char)
  | .line text =>
    if (Part.line text).isHeader then some (Text.trim (text.drop 2))
    else if separatorMarker.isPrefixOf text then some []
    else none
  | .block _ => none

/-- The titles of the cases of a text, in order. -/
def titles (content : String) : List (List Char) :=
  ((parts (Text.lines content.toList)).dropWhile (!·.isHeader)).filterMap Part.opening?

/-- The name of the case at a place, which is counted from one. -/
def caseName (place : Nat) (title : List Char) : String :=
  if title.isEmpty then "Untitled case " ++ toString place else String.ofList title

/-- The names of the cases of a text when other cases stand before them. -/
def caseNames (earlier : Nat) (content : String) : List String :=
  (titles content).mapIdx fun index title => caseName (earlier + index + 1) title

/-- The same cases under other names. -/
def rename (names : List String) (cases : List Case) : List Case :=
  List.zipWith (fun name case => { case with name }) names cases

end TextScenario.Scenario
