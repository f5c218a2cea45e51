/-!
JSON values. The fields of an object are kept in the order in which they are written; a value
that is read has its fields sorted by name, without repetition.
-/

namespace TextScenario

inductive Json where
  | null
  | bool (value : Bool)
  | integer (value : Int)
  | double (value : Float)
  | text (value : String)
  | array (items : List Json)
  | object (fields : List (String × Json))
  deriving Inhabited

namespace Json

/-- Puts a field in its sorted place; an equal name is replaced. -/
def insertField {α : Type} (name : String) (value : α) : List (String × α) → List (String × α)
  | [] => [(name, value)]
  | (other, kept) :: rest =>
    if name < other then (name, value) :: (other, kept) :: rest
    else if name = other then (name, value) :: rest
    else (other, kept) :: insertField name value rest

/-- Fields in sorted order; of equal names the last counts. -/
def sortFields {α : Type} (fields : List (String × α)) : List (String × α) :=
  fields.foldl (fun sorted field => insertField field.1 field.2 sorted) []

def field? (name : String) : Json → Option Json
  | .object fields => fields.lookup name
  | _ => none

/-- A missing field counts as null. -/
def field (name : String) (json : Json) : Json :=
  (json.field? name).getD .null

def isNull : Json → Bool
  | .null => true
  | _ => false

def text? : Json → Option String
  | .text value => some value
  | _ => none

def bool? : Json → Option Bool
  | .bool value => some value
  | _ => none

def integer? : Json → Option Int
  | .integer value => some value
  | _ => none

def items? : Json → Option (List Json)
  | .array items => some items
  | _ => none

def fields? : Json → Option (List (String × Json))
  | .object fields => some fields
  | _ => none

def ofNat (value : Nat) : Json :=
  .integer value

def texts (values : List String) : Json :=
  .array (values.map .text)

/-- An absent value is written as null. -/
def optional {α : Type} (encode : α → Json) : Option α → Json
  | none => .null
  | some value => encode value

end Json

end TextScenario
