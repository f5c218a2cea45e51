import TextScenario.Json
import TextScenario.Decimal.Shortest
/-!
Writing JSON: compact, with no spaces, and indented, with two spaces for each level.
-/

namespace TextScenario.Json

/-- Doubles are positional from `10 ^ -5` up to `10 ^ 16`. -/
def doubleLayout : Decimal.Layout := { leastPositional := -5, firstScientific := 16 }

def hexChar (value : Nat) : Char :=
  if value < 10 then Char.ofNat ('0'.toNat + value) else Char.ofNat ('a'.toNat + (value - 10))

/-- Quotes, backslashes and control characters are escaped; all else stands for itself. -/
def escapeChar (char : Char) : List Char :=
  match char with
  | '"' => ['\\', '"']
  | '\\' => ['\\', '\\']
  | '\n' => ['\\', 'n']
  | '\r' => ['\\', 'r']
  | '\t' => ['\\', 't']
  | _ =>
    let code := char.toNat
    if code = 8 then ['\\', 'b']
    else if code = 12 then ['\\', 'f']
    else if code < 0x20 then ['\\', 'u', '0', '0', hexChar (code / 16), hexChar (code % 16)]
    else [char]

def quoted (text : String) : String :=
  "\"" ++ String.ofList (text.toList.flatMap escapeChar) ++ "\""

/-- Joins texts with a separator between neighbours. -/
def joined (separator : String) : List String → String
  | [] => ""
  | [only] => only
  | first :: rest => first ++ separator ++ joined separator rest

def doubleText (value : Float) : String :=
  if value.isFinite then doubleLayout.textOfBits value.toBits else "null"

mutual
def compact : Json → String
  | .null => "null"
  | .bool true => "true"
  | .bool false => "false"
  | .integer value => toString value
  | .double value => doubleText value
  | .text value => quoted value
  | .array items => "[" ++ joined "," (compactItems items) ++ "]"
  | .object fields => "\x7b" ++ joined "," (compactFields fields) ++ "\x7d"

def compactItems : List Json → List String
  | [] => []
  | item :: rest => compact item :: compactItems rest

def compactFields : List (String × Json) → List String
  | [] => []
  | (name, value) :: rest => (quoted name ++ ":" ++ compact value) :: compactFields rest
end

/-- The line break and indentation of a level. -/
def newline (level : Nat) : String :=
  "\n" ++ String.ofList (List.replicate (2 * level) ' ')

mutual
/-- A value inside `level` containers. -/
def indented (level : Nat) : Json → String
  | .array [] => "[]"
  | .array (first :: rest) =>
    let pieces := indentedItems (level + 1) (first :: rest)
    "[" ++ newline (level + 1) ++ joined ("," ++ newline (level + 1)) pieces ++ newline level ++ "]"
  | .object [] => "\x7b\x7d"
  | .object (first :: rest) =>
    let pieces := indentedFields (level + 1) (first :: rest)
    "\x7b" ++ newline (level + 1) ++ joined ("," ++ newline (level + 1)) pieces ++
      newline level ++ "\x7d"
  | scalar => compact scalar

def indentedItems (level : Nat) : List Json → List String
  | [] => []
  | item :: rest => indented level item :: indentedItems level rest

def indentedFields (level : Nat) : List (String × Json) → List String
  | [] => []
  | (name, value) :: rest =>
    (quoted name ++ ": " ++ indented level value) :: indentedFields level rest
end

/-- The indented form of a whole document. -/
def pretty (json : Json) : String :=
  indented 0 json

end TextScenario.Json
