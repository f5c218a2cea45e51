import TextScenario.Decimal.Shortest
import TextScenario.Json.Printer
import TextScenario.Yaml.Value
/-!
Writing JSON values as YAML, in block style and without wrapping. A text is written plain where it
reads back as itself; otherwise it is quoted, and a text with line feeds becomes a literal block if
it can.
-/

namespace TextScenario.Yaml

/-- Doubles are positional in the same range as in JSON, but a great exponent has no sign. -/
def doubleLayout : Decimal.Layout :=
  { leastPositional := -5, firstScientific := 16, signed := false }

def doubleText (value : Float) : String :=
  if value.isNaN then ".nan"
  else if value.isFinite then doubleLayout.textOfBits value.toBits
  else if value < 0.0 then "-.inf" else ".inf"

inductive TextStyle where
  | plain
  | singleQuoted
  | doubleQuoted
  | literal
  deriving DecidableEq, Repr

namespace TextStyle

/-- Whether a text without quotes would be read as something else, or is a number by its looks. -/
def isAmbiguous (text : String) : Bool :=
  match Scalar.plain? text with
  | some (.text _) => Scalar.hasLeadingZero text.toList
  | _ => true

/-- Characters that need an escape: control characters, tabs and the byte order mark. -/
def isSpecial (char : Char) : Bool :=
  char == '\t' || char == '\r' || char == '\u0085' || char == '\ufeff' || !isPrintable char

/-- Blanks, line breaks, and the end of the text. -/
def endsWord : Option Char → Bool
  | none => true
  | some char => char == '\x00' || char == '\r' || char == '\u0085' || isGap char

/-- Whether an indicator stands at a place where it means something; it is given with the
characters before and after it. -/
def indicates (before : Option Char) (char : Char) (after : Option Char) : Bool :=
  match before with
  | none =>
    [',', '[', ']', '{', '}', '#', '&', '*', '!', '|', '>', '\'', '"', '%', '@', '`'].contains char ||
      (['?', ':', '-'].contains char && endsWord after)
  | some before => (char == ':' && endsWord after) || (char == '#' && endsWord (some before))

def hasIndicator (before : Option Char) : List Char → Bool
  | [] => false
  | char :: rest => indicates before char rest.head? || hasIndicator (some char) rest

/-- Whether the text could be taken for a mark between documents. -/
def startsAsMark (text : List Char) : Bool :=
  [['-', '-', '-'], ['.', '.', '.']].contains (text.take 3)

def hasNeighbours (left right : Char → Bool) : List Char → Bool
  | first :: second :: rest => (left first && right second) || hasNeighbours left right (second :: rest)
  | _ => false

private def isBlankSpace (char : Char) : Bool :=
  char == ' '

/-- Spaces at the end of a line would be lost in any style but double quotes. -/
def needsEscapes (text : List Char) : Bool :=
  text.any isSpecial || hasNeighbours isBlankSpace isBreak text

def allowsPlain (text : List Char) : Bool :=
  !needsEscapes text && !text.any isBreak && text.head? != some ' ' && text.getLast? != some ' ' &&
    !startsAsMark text && !hasIndicator none text

def allowsLiteral (text : List Char) : Bool :=
  !needsEscapes text && !text.isEmpty && text.getLast? != some ' '

def allowsSingleQuoted (text : List Char) : Bool :=
  !needsEscapes text && !hasNeighbours isBreak isBlankSpace text

def of (text : String) : TextStyle :=
  let chars := text.toList
  if chars.contains '\n' then if allowsLiteral chars then .literal else .doubleQuoted
  else if !isAmbiguous text && allowsPlain chars then .plain
  else if allowsSingleQuoted chars then .singleQuoted
  else .doubleQuoted

end TextStyle

def spaces (count : Nat) : List Char :=
  List.replicate count ' '

/-- Breaks each line and indents the next one, unless it is empty. -/
def indentLines (indent : Nat) (afterBreak : Bool) : List Char → List Char
  | [] => []
  | char :: rest =>
    if isBreak char then char :: indentLines indent true rest
    else (if afterBreak then spaces indent else []) ++ char :: indentLines indent false rest

/-- A literal block says how deep it is indented if its text does not show it, and whether line
breaks at its end are to be dropped or all kept. -/
def literalHeader (text : List Char) : List Char :=
  let depth := if text.head?.any fun char => char == ' ' || isBreak char then ['2'] else []
  let ending :=
    match text.reverse with
    | last :: before :: _ =>
      if !isBreak last then ['-'] else if isBreak before then ['+'] else []
    | [last] => if isBreak last then ['+'] else ['-']
    | [] => ['-']
  '|' :: depth ++ ending

private def escapeDigit (value : Nat) : Char :=
  if value < 10 then Char.ofNat ('0'.toNat + value) else Char.ofNat ('A'.toNat + (value - 10))

private def escapeDigits : Nat → Nat → List Char
  | 0, _ => []
  | width + 1, code => escapeDigits width (code / 16) ++ [escapeDigit (code % 16)]

private def escapeNames : List (Nat × Char) :=
  [(0x00, '0'), (0x07, 'a'), (0x08, 'b'), (0x09, 't'), (0x0A, 'n'), (0x0B, 'v'), (0x0C, 'f'),
   (0x0D, 'r'), (0x1B, 'e'), (0x22, '"'), (0x5C, '\\'), (0x85, 'N'), (0x2028, 'L'), (0x2029, 'P')]

def escapeChar (char : Char) : List Char :=
  let code := char.toNat
  match escapeNames.lookup code with
  | some name => ['\\', name]
  | none =>
    if !TextStyle.isSpecial char then [char]
    else if code ≤ 0xFF then '\\' :: 'x' :: escapeDigits 2 code
    else if code ≤ 0xFFFF then '\\' :: 'u' :: escapeDigits 4 code
    else '\\' :: 'U' :: escapeDigits 8 code

def textIn (indent : Nat) (text : String) : String :=
  let chars := text.toList
  match TextStyle.of text with
  | .plain => text
  | .singleQuoted =>
    let doubled := chars.flatMap fun char => if char == '\'' then ['\'', '\''] else [char]
    "'" ++ String.ofList (indentLines indent false (doubled ++ ['\'']))
  | .doubleQuoted => "\"" ++ String.ofList (chars.flatMap escapeChar) ++ "\""
  | .literal => String.ofList (literalHeader chars ++ '\n' :: indentLines indent true chars)

/-- A key on a line of its own is short and has no line break. -/
def isSimpleKey (key : String) : Bool :=
  !key.toList.any isBreak && key.utf8ByteSize ≤ 128

/-- Starts a new line, unless the text ends in a line break already. -/
def newLine (text : String) : String :=
  if text.toList.getLast?.any isBreak then "" else "\n"

def stacked (indent : Nat) : List String → String
  | [] => ""
  | [only] => only
  | first :: rest =>
    first ++ newLine first ++ String.ofList (spaces indent) ++ stacked indent rest

def scalarText (indent : Nat) : Json → String
  | .null => "null"
  | .bool value => toString value
  | .integer value => toString value
  | .double value => doubleText value
  | .text value => textIn indent value
  | .array _ => "[]"
  | .object _ => "\x7b\x7d"

mutual
/-- What follows a dash, or the mark of a long key, at some depth. -/
def afterMark (indent : Nat) : Json → String
  | .array (first :: rest) => " " ++ stacked (indent + 2) (itemTexts (indent + 2) (first :: rest))
  | .object (first :: rest) => " " ++ stacked (indent + 2) (entryTexts (indent + 2) (first :: rest))
  | scalar => " " ++ scalarText (indent + 2) scalar

/-- What follows a key and its colon. The items of a list are not indented. -/
def afterKey (indent : Nat) : Json → String
  | .array (first :: rest) =>
    "\n" ++ String.ofList (spaces indent) ++ stacked indent (itemTexts indent (first :: rest))
  | .object (first :: rest) =>
    "\n" ++ String.ofList (spaces (indent + 2)) ++
      stacked (indent + 2) (entryTexts (indent + 2) (first :: rest))
  | scalar => " " ++ scalarText (indent + 2) scalar

def itemTexts (indent : Nat) : List Json → List String
  | [] => []
  | item :: rest => ("-" ++ afterMark indent item) :: itemTexts indent rest

def entryTexts (indent : Nat) : List (String × Json) → List String
  | [] => []
  | (key, value) :: rest =>
    let keyText := textIn (indent + 2) key
    let entry :=
      if isSimpleKey key then keyText ++ ":" ++ afterKey indent value
      else
        "? " ++ keyText ++ newLine keyText ++ String.ofList (spaces indent) ++ ":" ++
          afterMark indent value
    entry :: entryTexts indent rest
end

def document (json : Json) : String :=
  let text :=
    match json with
    | .array (first :: rest) => stacked 0 (itemTexts 0 (first :: rest))
    | .object (first :: rest) => stacked 0 (entryTexts 0 (first :: rest))
    | scalar => scalarText 2 scalar
  text ++ newLine text

end TextScenario.Yaml
