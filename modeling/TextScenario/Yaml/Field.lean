import TextScenario.Yaml.Value
/-!
Reading nodes where a certain kind of value is wanted. Text is wanted more often than not, so any
scalar counts as text there, also one that looks like a number.
-/

namespace TextScenario.Yaml

structure Scalar where
  tag : Option String
  style : ScalarStyle
  text : String

/-- Of each name that is looked for there may be one field only. -/
abbrev Fields := List (String × Node)

def Fields.only? (fields : Fields) (name : String) : Option (Option Node) :=
  match fields.filter (·.1 == name) with
  | [] => some none
  | [(_, node)] => some (some node)
  | _ => none

def Fields.read? {α : Type} (fields : Fields) (name : String) (fallback : α)
    (decode : Node → Option α) : Option α := do
  match ← fields.only? name with
  | none => some fallback
  | some node => decode node

namespace Tree

def scalar? (tree : Tree) (node : Node) : Option Scalar :=
  match tree.resolve node with
  | some (.scalar tag style text) => some { tag, style, text }
  | _ => none

def text? (tree : Tree) (node : Node) : Option String :=
  (tree.scalar? node).map (·.text)

/-- A plain scalar, or a literal block with the tag of the wanted kind. -/
private def wanted? (tree : Tree) (kind : String) (node : Node) : Option String :=
  (tree.scalar? node).bind fun scalar =>
    if scalar.style = .plain ∨ (scalar.style = .literal ∧ scalar.tag = some (Scalar.schema kind)) then
      some scalar.text
    else none

def bool? (tree : Tree) (node : Node) : Option Bool :=
  (tree.wanted? "bool" node).bind Scalar.bool?

def unsigned? (tree : Tree) (node : Node) : Option Nat :=
  (tree.wanted? "int" node).bind Scalar.unsigned?

/-- Text, or nothing for a plain null or an empty plain scalar. -/
def nullableText? (tree : Tree) (node : Node) : Option (Option String) :=
  (tree.scalar? node).bind fun scalar =>
    if scalar.style ≠ .plain then some (some scalar.text)
    else match scalar.tag with
      | none =>
        if scalar.text.isEmpty || Scalar.isNull scalar.text then some none else some (some scalar.text)
      | some tag =>
        if tag = Scalar.schema "null" then
          (if Scalar.isNull scalar.text then some none else none)
        else some (some scalar.text)

/-- The entries of a mapping, whose keys must be scalars. An empty plain scalar counts as an empty
mapping. -/
def fields? (tree : Tree) (node : Node) : Option Fields :=
  match tree.resolve node with
  | some (.mapping _ entries) =>
    entries.mapM fun (key, value) => (tree.text? key).map (·, value)
  | some (.scalar _ .plain "") => some []
  | _ => none

/-- The fields of the root; an empty document has none. -/
def rootFields? (tree : Tree) : Option Fields :=
  match tree.root with
  | none => some []
  | some root => tree.fields? root

/-- One of some names. A name may also be given as a tag, with null for its value. -/
def choice? (tree : Tree) (node : Node) : Option String :=
  (tree.scalar? node).bind fun scalar =>
    match localTag? scalar.tag with
    | none => some scalar.text
    | some name =>
      if scalar.style = .plain ∧ (scalar.text.isEmpty ∨ Scalar.isNull scalar.text) then some name
      else none

end Tree

end TextScenario.Yaml
