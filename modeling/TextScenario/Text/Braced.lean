/-!
Names in braces. A text is cut into single characters and placeholders such as `{name}`; a brace
that opens no placeholder is a character like any other.
-/

namespace TextScenario.Text

inductive Piece where
  | char (char : Char)
  | placeholder (name : List Char)
  deriving DecidableEq, Repr

/-- What may stand between the braces: a non-empty run of members that starts well. -/
structure NameRule where
  starts : Char → Bool
  member : Char → Bool

def NameRule.accepts (rule : NameRule) : List Char → Bool
  | [] => false
  | first :: rest => rule.starts first && (first :: rest).all rule.member

/-- Cuts a text into pieces. `pending` holds, in reverse order, the members read since an open
brace. -/
def piecesFrom (rule : NameRule) : Option (List Char) → List Char → List Piece
  | none, [] => []
  | some pending, [] => .char '{' :: pending.reverse.map .char
  | none, char :: rest =>
    if char = '{' then piecesFrom rule (some []) rest
    else .char char :: piecesFrom rule none rest
  | some pending, char :: rest =>
    if char = '}' ∧ rule.accepts pending.reverse then
      .placeholder pending.reverse :: piecesFrom rule none rest
    else if rule.member char then piecesFrom rule (some (char :: pending)) rest
    else
      .char '{' :: pending.reverse.map .char ++
        if char = '{' then piecesFrom rule (some []) rest
        else .char char :: piecesFrom rule none rest

def pieces (rule : NameRule) (text : List Char) : List Piece :=
  piecesFrom rule none text

/-- The text that a piece was cut from. -/
def Piece.source : Piece → List Char
  | .char own => [own]
  | .placeholder name => '{' :: name ++ ['}']

def Piece.name? : Piece → Option (List Char)
  | .char _ => none
  | .placeholder name => some name

end TextScenario.Text
