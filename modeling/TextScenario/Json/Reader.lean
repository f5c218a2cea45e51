import TextScenario.Json.Number
import TextScenario.Text.CodeTable
/-!
Reading JSON text. The text is cut into tokens, and the tokens drive a stack of open
containers. Any departure from the grammar gives no value.
-/

namespace TextScenario.Json

inductive Token where
  | openArray
  | closeArray
  | openObject
  | closeObject
  | comma
  | colon
  | text (value : String)
  | scalar (value : Json)

/-- An open container with what it holds so far, in reverse order. -/
inductive Frame where
  | array (items : List Json)
  | object (fields : List (String × Json)) (name : String)

inductive State where
  | beforeValue (stack : List Frame)
  | firstItem (stack : List Frame)
  | firstName (stack : List Frame)
  | nextName (stack : List Frame) (fields : List (String × Json))
  | beforeColon (stack : List Frame) (fields : List (String × Json)) (name : String)
  | afterValue (stack : List Frame) (value : Json)

/-- What is made of the strings and numbers of a text, and how many containers may be open. -/
structure Reading where
  /-- Reads a string after its opening quote. -/
  text : List Char → Option (String × List Char)
  /-- Reads a number after its sign. -/
  number (negative : Bool) : List Char → Option (Json × List Char)
  hasRoom : Nat → Bool

variable (reading : Reading)

def State.start? (stack : List Frame) : Token → Option State
  | .openArray => if reading.hasRoom stack.length then some (.firstItem stack) else none
  | .openObject => if reading.hasRoom stack.length then some (.firstName stack) else none
  | .text value => some (.afterValue stack (.text value))
  | .scalar value => some (.afterValue stack value)
  | _ => none

def State.next? : State → Token → Option State
  | .beforeValue stack, token => start? reading stack token
  | .firstItem stack, .closeArray => some (.afterValue stack (.array []))
  | .firstItem stack, token => start? reading (.array [] :: stack) token
  | .firstName stack, .closeObject => some (.afterValue stack (.object []))
  | .firstName stack, .text name => some (.beforeColon stack [] name)
  | .nextName stack fields, .text name => some (.beforeColon stack fields name)
  | .beforeColon stack fields name, .colon => some (.beforeValue (.object fields name :: stack))
  | .afterValue (.array items :: stack) value, .comma => some (.beforeValue (.array (value :: items) :: stack))
  | .afterValue (.array items :: stack) value, .closeArray =>
    some (.afterValue stack (.array (value :: items).reverse))
  | .afterValue (.object fields name :: stack) value, .comma =>
    some (.nextName stack ((name, value) :: fields))
  | .afterValue (.object fields name :: stack) value, .closeObject =>
    some (.afterValue stack (.object ((name, value) :: fields).reverse))
  | _, _ => none

def State.result? : State → Option Json
  | .afterValue [] value => some value
  | _ => none

def fourHex? : List Char → Option (Nat × List Char)
  | a :: b :: c :: d :: rest => do
    let a ← Text.hexDigit? a
    let b ← Text.hexDigit? b
    let c ← Text.hexDigit? c
    let d ← Text.hexDigit? d
    some (((a * 16 + b) * 16 + c) * 16 + d, rest)
  | _ => none

/-- The character of a `\u` escape, which may take a second escape for its low half. -/
def escaped? (text : List Char) : Option (Char × List Char) := do
  let (unit, rest) ← fourHex? text
  if unit < 0xD800 ∨ 0xE000 ≤ unit then some (Char.ofNat unit, rest)
  else if 0xDC00 ≤ unit then none
  else match rest with
    | '\\' :: 'u' :: rest =>
      let (low, rest) ← fourHex? rest
      if 0xDC00 ≤ low ∧ low < 0xE000 then
        some (Char.ofNat (0x10000 + (unit - 0xD800) * 0x400 + (low - 0xDC00)), rest)
      else none
    | _ => none

/-- Reads a string after its opening quote. The fuel bounds the number of characters. -/
def readText : Nat → List Char → List Char → Option (String × List Char)
  | 0, _, _ => none
  | _ + 1, _, [] => none
  | fuel + 1, read, char :: rest =>
    if char = '"' then some (String.ofList read.reverse, rest)
    else if char = '\\' then
      match rest with
      | 'u' :: rest => do
        let (char, rest) ← escaped? rest
        readText fuel (char :: read) rest
      | code :: rest =>
        match code with
        | '"' => readText fuel ('"' :: read) rest
        | '\\' => readText fuel ('\\' :: read) rest
        | '/' => readText fuel ('/' :: read) rest
        | 'b' => readText fuel ('\x08' :: read) rest
        | 'f' => readText fuel ('\x0c' :: read) rest
        | 'n' => readText fuel ('\n' :: read) rest
        | 'r' => readText fuel ('\r' :: read) rest
        | 't' => readText fuel ('\t' :: read) rest
        | _ => none
      | [] => none
    else if char.toNat < 0x20 then none
    else readText fuel (char :: read) rest

def digitsOf (text : List Char) : List Nat :=
  text.map fun char => char.toNat - '0'.toNat

/-- One digit or more, and what follows them. -/
def readDigits? (text : List Char) : Option (List Nat × List Char) :=
  let digits := text.takeWhile Char.isDigit
  if digits.isEmpty then none else some (digitsOf digits, text.drop digits.length)

/-- The digits before the point, which begin with a zero only if it is all of them. -/
def readWhole? (text : List Char) : Option (List Nat × List Char) :=
  let digits := text.takeWhile Char.isDigit
  if digits.head? = some '0' ∧ 1 < digits.length then none else readDigits? text

def readFraction? : List Char → Option (Option (List Nat) × List Char)
  | '.' :: rest => (readDigits? rest).map fun (digits, rest) => (some digits, rest)
  | rest => some (none, rest)

/-- Whether an exponent is negative, and what follows its sign. -/
def readDown : List Char → Bool × List Char
  | '-' :: rest => (true, rest)
  | '+' :: rest => (false, rest)
  | rest => (false, rest)

def readExponent? : List Char → Option (Option (Bool × List Nat) × List Char)
  | mark :: rest =>
    if mark = 'e' ∨ mark = 'E' then
      (readDigits? (readDown rest).2).map fun (digits, after) =>
        (some ((readDown rest).1, digits), after)
    else some (none, mark :: rest)
  | [] => some (none, [])

def readLiteral? (negative : Bool) (text : List Char) : Option (NumberLiteral × List Char) := do
  let (whole, rest) ← readWhole? text
  let (fraction, rest) ← readFraction? rest
  let (exponent, rest) ← readExponent? rest
  some ({ negative, whole, fraction, exponent }, rest)

def readNumber (negative : Bool) (text : List Char) : Option (Json × List Char) := do
  let (literal, rest) ← readLiteral? negative text
  let value ← literal.value?
  some (value, rest)

def stripped? (word : String) (text : List Char) : Option (List Char) :=
  if text.take word.length = word.toList then some (text.drop word.length) else none

def readToken (char : Char) (rest : List Char) : Option (Token × List Char) :=
  match char with
  | '[' => some (.openArray, rest)
  | ']' => some (.closeArray, rest)
  | '{' => some (.openObject, rest)
  | '}' => some (.closeObject, rest)
  | ',' => some (.comma, rest)
  | ':' => some (.colon, rest)
  | '"' => (reading.text rest).map fun (value, rest) => (.text value, rest)
  | 't' => (stripped? "rue" rest).map (.scalar (.bool true), ·)
  | 'f' => (stripped? "alse" rest).map (.scalar (.bool false), ·)
  | 'n' => (stripped? "ull" rest).map (.scalar .null, ·)
  | '-' => (reading.number true rest).map fun (value, rest) => (.scalar value, rest)
  | _ =>
    if char.isDigit then
      (reading.number false (char :: rest)).map fun (value, rest) => (.scalar value, rest)
    else none

def isSpace (char : Char) : Bool :=
  char == ' ' || char == '\t' || char == '\n' || char == '\r'

/-- Feeds the tokens of a text to the stack of open containers. -/
def readFrom : Nat → State → List Char → Option State
  | _, state, [] => some state
  | 0, _, _ :: _ => none
  | fuel + 1, state, char :: rest =>
    if isSpace char then readFrom fuel state rest
    else do
      let (token, rest) ← readToken reading char rest
      readFrom fuel (← state.next? reading token) rest

/-- What a text holds that is exactly one JSON document. Fields stand as they are written, also those
with equal names. -/
def readWith? (text : List Char) : Option Json := do
  (← readFrom reading text.length (.beforeValue []) text).result?

/-- Strings and numbers stand for their values; containers are at most 127 deep. -/
def Reading.values : Reading where
  text rest := readText (rest.length + 1) [] rest
  number := readNumber
  hasRoom depth := depth < 127

mutual
/-- The value with the fields of all objects sorted; of equal names the last counts. -/
def sorted : Json → Json
  | .array items => .array (sortedItems items)
  | .object fields => .object (sortFields (sortedFields fields))
  | scalar => scalar

def sortedItems : List Json → List Json
  | [] => []
  | item :: rest => sorted item :: sortedItems rest

def sortedFields : List (String × Json) → List (String × Json)
  | [] => []
  | (name, value) :: rest => (name, sorted value) :: sortedFields rest
end

/-- The value of a text that holds exactly one JSON document, with sorted fields. -/
def read? (text : String) : Option Json :=
  (readWith? .values text.toList).map sorted

end TextScenario.Json
