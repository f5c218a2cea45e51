import TextScenario.Json
import TextScenario.Regex.Match
import TextScenario.Regex.Reader
import TextScenario.Template
/-!
Patterns. A pattern mixes literal text, placeholders such as `{name}`, and a delimiter between
segments. It is compiled to an expression that has to match a whole line; each placeholder
becomes a group of that name.
-/

namespace TextScenario

inductive Delimiter where
  | tilde
  | pipe
  deriving DecidableEq, Repr, Inhabited

namespace Delimiter

def char : Delimiter → Char
  | .tilde => '~'
  | .pipe => '|'

def other : Delimiter → Delimiter
  | .tilde => .pipe
  | .pipe => .tilde

def name : Delimiter → String
  | .tilde => "tilde"
  | .pipe => "pipe"

def ofName? (name : String) : Option Delimiter :=
  [tilde, pipe].find? (·.name == name)

/-- The expression between segments: blanks for tildes, anything for pipes. -/
def joiner : Delimiter → List Char
  | .tilde => "\\s*".toList
  | .pipe => ".*?".toList

end Delimiter

/-- Expression fragments for placeholders, sorted by name. -/
structure Library where
  fragments : List (String × String) := []
  deriving DecidableEq, Repr, Inhabited

namespace Library

/-- A fragment without a caret at its start and a dollar sign at its end; a dollar sign after an
odd number of backslashes stays. -/
def stripAnchors (fragment : List Char) : List Char :=
  let start := (Text.strip? ['^'] fragment).getD fragment
  match Text.stripEnd? ['$'] start with
  | some rest => if (rest.reverse.takeWhile (· == '\\')).length % 2 = 1 then start else rest
  | none => start

/-- A fragment that is empty without its anchors is left out. -/
def insert (library : Library) (name fragment : String) : Library :=
  match stripAnchors fragment.toList with
  | [] => library
  | stripped => ⟨Json.insertField name (String.ofList stripped) library.fragments⟩

def ofList (entries : List (String × String)) : Library :=
  entries.foldl (fun library entry => library.insert entry.1 entry.2) {}

def fragment? (library : Library) (name : String) : Option String :=
  library.fragments.lookup name

end Library

inductive PatternError where
  | empty
  | duplicatePlaceholder (name : String)
  | delimiterMismatch (expected found : Char)
  | invalidExpression
  deriving DecidableEq, Repr

def PatternError.message : PatternError → String
  | .empty => "pattern is empty"
  | .duplicatePlaceholder name => "placeholder \x7b" ++ name ++ "\x7d appears more than once"
  | .delimiterMismatch expected found =>
    "pattern uses '" ++ found.toString ++ "' but the configured segment delimiter is '" ++
      expected.toString ++ "'"
  | .invalidExpression => "pattern does not compile: <detail>"

namespace Pattern

/-- Placeholder names are ASCII identifiers. -/
def nameRule : Text.NameRule where
  starts char := char.isAlpha || char == '_'
  member char := char.isAlphanum || char == '_'

def placeholderChars (pattern : List Char) : List (List Char) :=
  (Text.pieces nameRule pattern).filterMap Text.Piece.name?

/-- The names of a pattern, in order, with repetitions. -/
def placeholders (pattern : String) : List String :=
  (placeholderChars pattern.toList).map String.ofList

/-- The first element that occurs again later, by the place of its second occurrence. -/
def firstRepeated (seen : List String) : List String → Option String
  | [] => none
  | name :: rest => if seen.contains name then some name else firstRepeated (name :: seen) rest

/-- A pattern is not blank, has no foreign delimiter, and names each placeholder once. -/
def check (pattern : String) (delimiter : Delimiter) : Except PatternError Unit :=
  if (Text.trim pattern.toList).isEmpty then .error .empty
  else if pattern.toList.contains delimiter.other.char then
    .error (.delimiterMismatch delimiter.char delimiter.other.char)
  else match firstRepeated [] (placeholders pattern) with
    | some name => .error (.duplicatePlaceholder name)
    | none => .ok ()

/-- The segments between delimiters, trimmed and not empty. A pattern without a delimiter is one
segment as it stands. -/
def segments (pattern : List Char) (delimiter : Delimiter) : List (List Char) :=
  if pattern.contains delimiter.char then
    ((Text.splitAt delimiter.char pattern).map Text.trim).filter (!·.isEmpty)
  else [pattern]

/-- A character of literal text, with a backslash where it would mean something else. -/
def escapeChar (char : Char) : List Char :=
  if Regex.isMeta char then ['\\', char] else [char]

def defaultFragment : List Char := ".+?".toList

def pieceExpression (library : Library) : Text.Piece → List Char
  | .char char => escapeChar char
  | .placeholder name =>
    let fragment := ((library.fragment? (String.ofList name)).map String.toList).getD defaultFragment
    "(?P<".toList ++ name ++ '>' :: fragment ++ [')']

def segmentExpression (library : Library) (segment : List Char) : List Char :=
  (Text.pieces nameRule segment).flatMap (pieceExpression library)

def joinTexts (separator : List Char) : List (List Char) → List Char
  | [] => []
  | [only] => only
  | first :: rest => first ++ separator ++ joinTexts separator rest

def expressionChars (pattern : List Char) (delimiter : Delimiter) (library : Library) : List Char :=
  let body := joinTexts delimiter.joiner ((segments pattern delimiter).map (segmentExpression library))
  "^(?:".toList ++ body ++ ")$".toList

/-- The expression of a pattern, anchored at both ends. -/
def expression (pattern : String) (delimiter : Delimiter) (library : Library) : String :=
  String.ofList (expressionChars pattern.toList delimiter library)

end Pattern

structure Matcher where
  expression : String
  captures? : String → Option Parameters
  /-- Whether a text is accepted. An engine may find this out without finding any captures. -/
  accepts : String → Bool := fun input => (captures? input).isSome

namespace Matcher

/-- Parameters have the trimmed text of each named group. -/
def parametersOf (regex : Regex) (input : List Char) (stop : Regex.Place) : Parameters :=
  Json.sortFields (regex.groupNames.map fun name =>
    (name, (regex.groupIndex? name).bind fun index =>
      (stop.captured? input index).map fun text => String.ofList (Text.trim text)))

def ofRegex (expression : String) (regex : Regex) : Matcher where
  expression
  captures? input :=
    (regex.search? input.toList).map (parametersOf regex input.toList)
  accepts input := (regex.search? input.toList).isSome

/-- Accepts exactly one text and captures nothing. -/
def ofText (text : String) : Matcher where
  expression := text
  captures? input := if input = text then some [] else none

end Matcher

structure PatternCompiler where
  compile : String → Delimiter → Library → Except PatternError Matcher

namespace PatternCompiler

def regular [Regex.Engine] : PatternCompiler where
  compile pattern delimiter library := do
    Pattern.check pattern delimiter
    let expression := Pattern.expression pattern delimiter library
    match Regex.read? expression.toList with
    | some regex => .ok (.ofRegex expression regex)
    | none => .error .invalidExpression

/-- Takes patterns as the texts that they accept. -/
def literal : PatternCompiler where
  compile pattern delimiter _ := do
    Pattern.check pattern delimiter
    .ok (.ofText pattern)

instance : Inhabited PatternCompiler := ⟨regular⟩

end PatternCompiler

end TextScenario
