import TextScenario.Yaml.Node
/-!
Values of YAML documents. Plain scalars are read by the core schema: null, booleans, numbers in
four bases, and text for all else.
-/

namespace TextScenario.Yaml

inductive Value where
  | null
  | bool (value : Bool)
  | integer (value : Int)
  | double (value : Float)
  | text (value : String)
  | sequence (items : List Value)
  | mapping (entries : List (Value × Value))
  | tagged (tag : String) (value : Value)
  deriving Inhabited

namespace Scalar

def isNull (text : String) : Bool :=
  ["null", "Null", "NULL", "~"].contains text

def bool? (text : String) : Option Bool :=
  if ["true", "True", "TRUE"].contains text then some true
  else if ["false", "False", "FALSE"].contains text then some false
  else none

/-- Digits with a superfluous leading zero are text. -/
def hasLeadingZero (text : List Char) : Bool :=
  let digits :=
    match text with
    | '-' :: rest | '+' :: rest => rest
    | _ => text
  digits.length > 1 && digits.head? == some '0' && digits.all Char.isDigit

private def digitsIn? (base : Nat) (digits : List Char) : Option Nat :=
  if digits.isEmpty then none
  else digits.foldlM (fun value char => do
    let digit ← Text.hexDigit? char
    if digit < base then some (value * base + digit) else none) 0

/-- A number without sign, with `0x`, `0o` or `0b` before other bases than ten. -/
def magnitude? : List Char → Option Nat
  | '0' :: 'x' :: digits => digitsIn? 16 digits
  | '0' :: 'o' :: digits => digitsIn? 8 digits
  | '0' :: 'b' :: digits => digitsIn? 2 digits
  | digits => digitsIn? 10 digits

def integer? (text : String) : Option Int :=
  let chars := text.toList
  if hasLeadingZero chars then none
  else match chars with
    | '-' :: rest => (magnitude? rest).map fun value => -(value : Int)
    | '+' :: rest => (magnitude? rest).map Int.ofNat
    | _ => (magnitude? chars).map Int.ofNat

/-- A whole number below `2 ^ 64`, as typed fields want it. -/
def unsigned? (text : String) : Option Nat :=
  match integer? text with
  | some (.ofNat value) =>
    if value < 0x10000000000000000 ∧ text.toList.head? ≠ some '-' then some value else none
  | _ => none

/-- Digits with a point or an exponent: the digits, their scale and the exponent. -/
private def decimal? (text : List Char) : Option Float :=
  let whole := text.takeWhile Char.isDigit
  let rest := text.drop whole.length
  let (fraction, rest) :=
    match rest with
    | '.' :: rest =>
      let digits := rest.takeWhile Char.isDigit
      (digits, rest.drop digits.length)
    | _ => ([], rest)
  let digits := whole ++ fraction
  let value := digits.foldl (fun value char => value * 10 + (char.toNat - '0'.toNat)) 0
  let scaled (exponent : Int) : Float :=
    let power := exponent - fraction.length
    if value = 0 then 0.0
    else if power > 400 then Float.ofScientific 1 false 400
    else if power < -(400 + digits.length : Int) then 0.0
    else if power < 0 then Float.ofScientific value true power.natAbs
    else Float.ofScientific value false power.toNat
  if digits.isEmpty then none
  else match rest with
    | [] => some (scaled 0)
    | mark :: rest =>
      if mark ≠ 'e' ∧ mark ≠ 'E' then none
      else
        let (down, digits) :=
          match rest with
          | '-' :: digits => (true, digits)
          | '+' :: digits => (false, digits)
          | digits => (false, digits)
        (digitsIn? 10 digits).map fun (exponent : Nat) =>
          scaled (if down then -(exponent : Int) else exponent)

/-- A finite decimal number, or an infinity or NaN written with a leading point. -/
def double? (text : String) : Option Float :=
  if ["+.inf", "+.Inf", "+.INF", ".inf", ".Inf", ".INF"].contains text then some (1.0 / 0.0)
  else if ["-.inf", "-.Inf", "-.INF"].contains text then some (-1.0 / 0.0)
  else if [".nan", ".NaN", ".NAN"].contains text then some (0.0 / 0.0)
  else
    let read := match text.toList with
      | '-' :: rest => (decimal? rest).map (- ·)
      | '+' :: rest => decimal? rest
      | chars => decimal? chars
    read.filter Float.isFinite

def fitsBits (bits : Nat) (value : Int) : Bool :=
  decide (-(1 <<< (bits - 1) : Nat) ≤ value) && decide (value < (1 <<< bits : Nat))

/-- Whole numbers have to fit 64 bits, with or without sign. Those that fit only 128 bits cannot
be held, and still greater ones are read as decimal numbers. -/
def number? (text : String) : Option (Option Value) :=
  let wide := integer? text
  match wide.filter (fitsBits 128) with
  | some value =>
    if fitsBits 64 value then some (some (.integer value)) else some none
  | none =>
    if hasLeadingZero text.toList then none
    else (double? text).map fun value => some (.double value)

def plain? (text : String) : Option Value :=
  if text.isEmpty || isNull text then some .null
  else match bool? text with
    | some value => some (.bool value)
    | none => (number? text).getD (some (.text text))

def schema (name : String) : String :=
  "tag:yaml.org,2002:" ++ name

/-- The value of a scalar whose tag does not start with an exclamation mark. -/
def value? (tag : Option String) (style : ScalarStyle) (text : String) : Option Value :=
  match tag with
  | none => if style = .plain then plain? text else some (.text text)
  | some tag =>
    if tag = schema "bool" then (bool? text).map .bool
    else if tag = schema "int" then
      match number? text with
      | some (some (.integer value)) => some (.integer value)
      | _ => none
    else if tag = schema "float" then (double? text).map .double
    else if tag = schema "null" then if isNull text then some .null else none
    else some (.text text)

end Scalar

/-- The name of a tag that starts with an exclamation mark. -/
def localTag? (tag : Option String) : Option String :=
  match tag.map String.toList with
  | some ['!'] => some "!"
  | some ('!' :: name) => some (String.ofList name)
  | _ => none

private def sameDouble (left right : Float) : Bool :=
  left == right || (left.isNaN && right.isNaN)

mutual
/-- Equality of values; mappings may differ in the order of their entries. -/
def Value.same : Value → Value → Bool
  | .null, .null => true
  | .bool left, .bool right => left == right
  | .integer left, .integer right => left == right
  | .double left, .double right => sameDouble left right
  | .text left, .text right => left == right
  | .sequence left, .sequence right => Value.sameItems left right
  | .mapping left, .mapping right =>
    left.length == right.length && Value.sameEntries left right
  | .tagged tag left, .tagged other right => tag == other && left.same right
  | _, _ => false

def Value.sameItems : List Value → List Value → Bool
  | [], [] => true
  | left :: lefts, right :: rights => left.same right && Value.sameItems lefts rights
  | _, _ => false

def Value.sameEntries : List (Value × Value) → List (Value × Value) → Bool
  | [], _ => true
  | (key, value) :: rest, others =>
    (others.any fun other => key.same other.1 && value.same other.2) &&
      Value.sameEntries rest others
end

mutual
def Node.size : Node → Nat
  | .scalar .. | .alias _ => 1
  | .sequence _ items => Node.sizeOfItems items + 2
  | .mapping _ entries => Node.sizeOfEntries entries + 2

def Node.sizeOfItems : List Node → Nat
  | [] => 0
  | item :: rest => item.size + Node.sizeOfItems rest

def Node.sizeOfEntries : List (Node × Node) → Nat
  | [] => 0
  | (key, value) :: rest => key.size + value.size + Node.sizeOfEntries rest
end

def greatestDepth : Nat := 128

mutual
/-- The value of a node inside at most `depth` containers; `aliases` counts how many aliases
may still be followed. The fuel bounds the steps between two aliases. -/
def Tree.value? (tree : Tree) (fuel depth aliases : Nat) (tagged : Bool) (node : Node) :
    Option (Value × Nat) :=
  match fuel with
  | 0 => none
  | fuel + 1 =>
    match node with
    | .alias anchor =>
      match aliases, tree.anchored? anchor with
      | aliases + 1, some node => tree.value? fuel depth aliases false node
      | _, _ => none
    | .scalar tag style text =>
      match if tagged then none else localTag? tag with
      | some name => do
        let (value, aliases) ← tree.value? fuel depth aliases true node
        some (.tagged name value, aliases)
      | none =>
        let tag := if tagged then none else tag
        (Scalar.value? tag style text).map (·, aliases)
    | .sequence tag items =>
      match if tagged then none else localTag? tag with
      | some name => do
        let (value, aliases) ← tree.value? fuel depth aliases true node
        some (.tagged name value, aliases)
      | none =>
        match depth with
        | 0 => none
        | depth + 1 => do
          let (items, aliases) ← tree.values? fuel depth aliases items
          some (.sequence items, aliases)
    | .mapping tag entries =>
      match if tagged then none else localTag? tag with
      | some name => do
        let (value, aliases) ← tree.value? fuel depth aliases true node
        some (.tagged name value, aliases)
      | none =>
        match depth with
        | 0 => none
        | depth + 1 => do
          let (entries, aliases) ← tree.entries? fuel depth aliases [] entries
          some (.mapping entries, aliases)

def Tree.values? (tree : Tree) (fuel depth aliases : Nat) (items : List Node) :
    Option (List Value × Nat) :=
  match fuel with
  | 0 => none
  | fuel + 1 =>
    match items with
    | [] => some ([], aliases)
    | item :: rest => do
      let (value, aliases) ← tree.value? fuel depth aliases false item
      let (values, aliases) ← tree.values? fuel depth aliases rest
      some (value :: values, aliases)

/-- The entries of a mapping; no key may occur twice. -/
def Tree.entries? (tree : Tree) (fuel depth aliases : Nat) (seen : List (Value × Value))
    (entries : List (Node × Node)) : Option (List (Value × Value) × Nat) :=
  match fuel with
  | 0 => none
  | fuel + 1 =>
    match entries with
    | [] => some (seen.reverse, aliases)
    | (key, node) :: rest => do
      let (key, aliases) ← tree.value? fuel depth aliases false key
      if seen.any (·.1.same key) then failure
      let (value, aliases) ← tree.value? fuel depth aliases false node
      tree.entries? fuel depth aliases ((key, value) :: seen) rest
end

/-- The value of a whole document. Aliases may be followed a hundred times as often as the
document has parts. -/
def Tree.toValue? (tree : Tree) : Option Value :=
  match tree.root with
  | none => some .null
  | some root =>
    let size := root.size
    (tree.value? (4 * (size + 1) * (greatestDepth + 1)) greatestDepth (100 * size) false root).map
      (·.1)

namespace Value

/-- The value without its tags. -/
def untagged : Value → Value
  | .tagged _ value => value.untagged
  | value => value

def text? (value : Value) : Option String :=
  match value.untagged with
  | .text content => some content
  | _ => none

def items? (value : Value) : Option (List Value) :=
  match value.untagged with
  | .sequence items => some items
  | _ => none

def entries? (value : Value) : Option (List (Value × Value)) :=
  match value.untagged with
  | .mapping entries => some entries
  | _ => none

private def isKey (name : String) : Value → Bool
  | .text key => key == name
  | _ => false

/-- The value of a key in a mapping. -/
def get? (name : String) (value : Value) : Option Value :=
  (value.entries?.bind fun entries => entries.find? fun (key, _) => isKey name key).map (·.2)

end Value

end TextScenario.Yaml
