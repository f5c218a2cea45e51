import TextScenario.Json.Printer
/-!
Shallow copies of values. Containers at the depth limit are replaced by a note of their size.
-/

namespace TextScenario.Json

def objectNote (size : Nat) : String :=
  "[Object: " ++ toString size ++ " keys]"

def arrayNote (size : Nat) : String :=
  "[Array: " ++ toString size ++ " items]"

mutual
/-- Keeps containers down to `depth` levels. -/
def shallow (depth : Nat) : Json → Json
  | .object fields =>
    match depth with
    | 0 => .text (objectNote fields.length)
    | depth + 1 => .object (shallowFields depth fields)
  | .array items =>
    match depth with
    | 0 => .text (arrayNote items.length)
    | depth + 1 => .array (shallowItems depth items)
  | scalar => scalar

def shallowItems (depth : Nat) : List Json → List Json
  | [] => []
  | item :: rest => shallow depth item :: shallowItems depth rest

def shallowFields (depth : Nat) : List (String × Json) → List (String × Json)
  | [] => []
  | (name, value) :: rest => (name, shallow depth value) :: shallowFields depth rest
end

def summaryDepth : Nat := 2

/-- A value on one line; a text stands for itself. -/
def summary : Json → String
  | .text value => value
  | value => (shallow summaryDepth value).compact

end TextScenario.Json
