import TextScenario.Text.CodeTable
import TextScenario.Text.Utf8
/-!
Hosts of addresses: names, with escapes read, and addresses of version 6 in brackets, which have one
text each.
-/

namespace TextScenario.Url

def isControlOrSpace (char : Char) : Bool :=
  char.toNat ≤ 0x20

/-- The byte that two hexadecimal digits stand for. -/
def byte? (high low : Char) : Option UInt8 := do
  some (16 * (← Text.hexDigit? high) + (← Text.hexDigit? low)).toUInt8

/-- The bytes that an encoded text stands for. -/
def decode : List Char → List UInt8
  | '%' :: high :: low :: rest =>
    match byte? high low with
    | some byte => byte :: decode rest
    | none => String.utf8EncodeChar '%' ++ decode (high :: low :: rest)
  | char :: rest => String.utf8EncodeChar char ++ decode rest
  | [] => []

def hostForbids (char : Char) : Bool :=
  isControlOrSpace char || char.toNat == 0x7F ||
    ['#', '%', '/', ':', '<', '>', '?', '@', '[', '\\', ']', '^', '|'].contains char

/-- One group of an address of version 6. -/
def group? (text : List Char) : Option Nat :=
  if text.isEmpty || 4 < text.length || !text.all (Text.hexDigit? · |>.isSome) then none
  else some (Text.hexValue text)

/-- A number below 256 without needless zeros. -/
def decimalByte? (text : List Char) : Option Nat :=
  let value := text.foldl (fun value digit => value * 10 + (digit.toNat - '0'.toNat)) 0
  if text.isEmpty || !text.all Char.isDigit || text.length != (Nat.toDigits 10 value).length || 255 < value then
    none
  else some value

/-- The groups at the end of an address, of which the last two may be written as four bytes. -/
def groups? : List (List Char) → Option (List Nat)
  | [] => some []
  | [last] =>
    if last.contains '.' then do
      match ← (Text.splitWhere (· == '.') last).mapM decimalByte? with
      | [first, second, third, fourth] => some [first * 256 + second, third * 256 + fourth]
      | _ => none
    else (group? last).map ([·])
  | first :: rest => do some ((← group? first) :: (← groups? rest))

/-- Cuts a text at two colons in a row. -/
def cutGap : List Char → Option (List Char × List Char)
  | ':' :: ':' :: rest => some ([], rest)
  | char :: rest => (cutGap rest).map fun (before, after) => (char :: before, after)
  | [] => none

/-- The eight groups of an address; two colons stand for groups that are zero, one at least. -/
def address? (text : List Char) : Option (List Nat) :=
  let parts (text : List Char) := if text.isEmpty then [] else Text.splitWhere (· == ':') text
  match cutGap text with
  | none => (groups? (parts text)).filter (·.length == 8)
  | some (before, after) => do
    let left ← (parts before).mapM group?
    let right ← groups? (parts after)
    if 8 ≤ left.length + right.length then none
    else some (left ++ List.replicate (8 - left.length - right.length) 0 ++ right)

/-- The text of an address, without the first of its longest runs of zeros. -/
def addressText (groups : List Nat) : List Char :=
  let text (groups : List Nat) := [':'].intercalate (groups.map (Nat.toDigits 16))
  let zeros (start : Nat) := ((groups.drop start).takeWhile (· == 0)).length
  let longest := (List.range groups.length).foldl (fun best start => max best (zeros start)) 0
  match (List.range groups.length).find? (zeros · == longest) with
  | some start =>
    if longest < 2 then text groups
    else text (groups.take start) ++ ':' :: ':' :: text (groups.drop (start + longest))
  | none => []

/-- A host by its name or address. Names are compared without case. -/
def hostOf? (text : List Char) : Option (List Char) :=
  match text with
  | '[' :: rest =>
    if rest.getLast? = some ']' then (address? rest.dropLast).map fun groups => '[' :: addressText groups ++ [']']
    else none
  | _ =>
    let name := Text.decodeFrom none ((decode text).map UInt8.toNat)
    if name.isEmpty || name.any hostForbids then none else some (name.map Char.toLower)

/-- Cuts a port off its host; a colon in brackets belongs to the host. -/
def cutPort (inside : Bool) : List Char → List Char × Option (List Char)
  | [] => ([], none)
  | char :: rest =>
    if char = ':' ∧ !inside then ([], some rest)
    else
      let (host, port) := cutPort (char == '[' || (inside && char != ']')) rest
      (char :: host, port)

end TextScenario.Url
