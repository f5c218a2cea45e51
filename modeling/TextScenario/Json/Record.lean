import TextScenario.Json
/-!
Reading records. A record may be given as an object, or as an array with its fields in order; no
field may be given twice.
-/

namespace TextScenario.Json

/-- The fields of a record by name; other fields do not count. An array has at least the `needed`
first fields. -/
def record? (names : List String) (needed : Nat) : Json → Option (List (String × Json))
  | .object fields =>
    let known := fields.filter fun (name, _) => names.contains name
    if (known.map (·.1)).Nodup then some known else none
  | .array items =>
    if needed ≤ items.length ∧ items.length ≤ names.length then some (names.zip items) else none
  | _ => none

def list? {α : Type} (decode : Json → Option α) (json : Json) : Option (List α) :=
  json.items?.bind (·.mapM decode)

def nullable? {α : Type} (decode : Json → Option α) : Json → Option (Option α)
  | .null => some none
  | json => (decode json).map some

def optional? {α : Type} (fields : List (String × Json)) (name : String) (fallback : α)
    (decode : Json → Option α) : Option α :=
  match fields.lookup name with
  | some json => decode json
  | none => some fallback

end TextScenario.Json
