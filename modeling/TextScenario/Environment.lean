import TextScenario.Text.Lines
import TextScenario.Text.Word
/-!
Variables and their placeholders. `%NAME%` stands for the value of a variable; a variable that is
missing or empty leaves its placeholder as it is.
-/

namespace TextScenario

structure Environment where
  bindings : List (String × String)
  deriving Inhabited

namespace Environment

def empty : Environment := ⟨[]⟩

def get? (environment : Environment) (name : String) : Option String :=
  environment.bindings.lookup name

/-- A name is a non-empty run of word characters. -/
def isName (text : List Char) : Bool :=
  !text.isEmpty && text.all Text.isWord

def replacement (environment : Environment) (name : List Char) : List Char :=
  match environment.get? (String.ofList name) with
  | some value => if value.isEmpty then '%' :: name ++ ['%'] else value.toList
  | none => '%' :: name ++ ['%']

/-- Puts the pieces after the first percent sign back together. A piece that is a name and has
another percent sign after it uses up both. -/
def expandPieces (environment : Environment) : List (List Char) → List Char
  | [] => []
  | [last] => '%' :: last
  | piece :: next :: rest =>
    if isName piece then environment.replacement piece ++ next ++ environment.expandPieces rest
    else '%' :: piece ++ environment.expandPieces (next :: rest)

def expandChars (environment : Environment) (text : List Char) : List Char :=
  match Text.splitAt '%' text with
  | [] => []
  | first :: rest => first ++ environment.expandPieces rest

/-- Replaces every placeholder from left to right; values are not looked at again. -/
def expand (environment : Environment) (text : String) : String :=
  String.ofList (environment.expandChars text.toList)

end Environment

end TextScenario
