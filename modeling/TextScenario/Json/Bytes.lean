import TextScenario.Json.Reader
/-!
Reading JSON from bytes, of which not all count. A string is cut out of the bytes as it is written, and
only if its text is asked for it has to be UTF-8; what does not count is held to the grammar alone.
-/

namespace TextScenario.Json

/-- One character for each byte. -/
def charsOf (bytes : ByteArray) : List Char :=
  bytes.data.toList.map fun byte => Char.ofNat byte.toNat

def bytesOf (chars : List Char) : ByteArray :=
  (chars.map fun char => char.toNat.toUInt8).toByteArray

/-- Cuts a string off at its closing quote. The fuel bounds the number of characters. -/
def cutText : Nat → List Char → List Char → Option (String × List Char)
  | 0, _, _ => none
  | _ + 1, _, [] => none
  | fuel + 1, read, char :: rest =>
    if char = '"' then some (String.ofList read.reverse, rest)
    else if char = '\\' then
      match rest with
      | 'u' :: rest => do
        let (_, after) ← fourHex? rest
        cutText fuel ((rest.take 4).reverse ++ 'u' :: char :: read) after
      | code :: rest =>
        if ['"', '\\', '/', 'b', 'f', 'n', 'r', 't'].contains code then
          cutText fuel (code :: char :: read) rest
        else none
      | [] => none
    else if char.toNat < 0x20 then none
    else cutText fuel (char :: read) rest

/-- Strings stay as they are written, numbers are skipped, and containers are as deep as they are. -/
def Reading.written : Reading where
  text rest := cutText (rest.length + 1) [] rest
  number negative text := (readLiteral? negative text).map fun (_, rest) => (.null, rest)
  hasRoom _ := true

def readBytes? (bytes : ByteArray) : Option Json :=
  readWith? .written (charsOf bytes)

/-- The text of a string as it is written. -/
def textOf? (written : String) : Option String := do
  let text ← String.fromUTF8? (bytesOf written.toList)
  match readText (text.toList.length + 1) [] (text.toList ++ ['"']) with
  | some (value, []) => some value
  | _ => none

/-- A value with the texts of the names of its fields. -/
def named? : Json → Option Json
  | .object fields => do
    let named ← fields.mapM fun (name, value) => (textOf? name).map (·, value)
    some (.object named)
  | json => some json

end TextScenario.Json
