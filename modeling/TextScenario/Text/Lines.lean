/-!
Cutting text at a separator and into lines, and looking for one text inside another.
-/

namespace TextScenario.Text

/-- The pieces between the separators; always one more than there are separators. -/
def splitAt (separator : Char) : List Char → List (List Char)
  | [] => [[]]
  | char :: rest =>
    if char = separator then [] :: splitAt separator rest
    else match splitAt separator rest with
      | [] => [[char]]
      | piece :: pieces => (char :: piece) :: pieces

/-- Joins pieces with a separator between neighbours. -/
def joinWith (separator : Char) : List (List Char) → List Char
  | [] => []
  | [only] => only
  | first :: rest => first ++ separator :: joinWith separator rest

/-- Removes one trailing carriage return. -/
def dropReturn : List Char → List Char
  | [] => []
  | [char] => if char = '\r' then [] else [char]
  | char :: rest => char :: dropReturn rest

/-- The lines of a text; one that ends in a line break has no empty last line. -/
def lines (text : List Char) : List (List Char) :=
  let pieces := splitAt '\n' text
  let closed := pieces.dropLast.map dropReturn
  match pieces.getLast? with
  | none | some [] => closed
  | some last => closed ++ [last]

/-- The rest of the text after a leading piece, if it has one. -/
def strip? : List Char → List Char → Option (List Char)
  | [], text => some text
  | _ :: _, [] => none
  | lead :: leads, char :: rest => if lead = char then strip? leads rest else none

/-- The text before an ending, if it has that ending. -/
def stripEnd? (ending text : List Char) : Option (List Char) :=
  (strip? ending.reverse text.reverse).map List.reverse

/-- Whether the needle occurs in the text. -/
def contains (needle : List Char) : List Char → Bool
  | [] => needle.isEmpty
  | char :: rest => (strip? needle (char :: rest)).isSome || contains needle rest

end TextScenario.Text
