import TextScenario.Text.CodeTable
import TextScenario.Yaml.Cursor
/-!
Tokens of YAML, and the readers of those that have names: anchors, tags and directives.
-/

namespace TextScenario.Yaml

inductive ScalarStyle where
  | plain
  | singleQuoted
  | doubleQuoted
  | literal
  | folded
  deriving DecidableEq, Repr, Inhabited

/-- A tag before its handle is replaced. -/
structure TagName where
  handle : List Char
  suffix : List Char
  deriving DecidableEq, Repr, Inhabited

inductive Token where
  | streamEnd
  | versionDirective (major minor : Nat)
  | tagDirective (handle lead : List Char)
  | documentStart
  | documentEnd
  | blockSequenceStart
  | blockMappingStart
  | blockEnd
  | flowSequenceStart
  | flowSequenceEnd
  | flowMappingStart
  | flowMappingEnd
  | flowEntry
  | blockEntry
  | key
  | value
  | anchor (name : List Char)
  | alias (name : List Char)
  | tag (name : TagName)
  | scalar (style : ScalarStyle) (text : List Char)
  deriving DecidableEq, Repr, Inhabited

def anchorName? (cursor : Cursor) : Option (List Char × Cursor) :=
  let (name, after) := cursor.takeWhile isNameChar
  let ends := after.gapAt 0 || after.head?.any fun char => "?:,]\x7d%@`".toList.contains char
  if name.isEmpty || !ends then none else some (name, after)

/-- The characters of a tag; flow punctuation is allowed between angle brackets only. -/
def isTagChar (verbatim : Bool) (char : Char) : Bool :=
  isNameChar char || ";/?:@&=+$.%!~*'()".toList.contains char ||
    (verbatim && ",[]".toList.contains char)

private def escapedByte? : List Char → Option (Nat × List Char)
  | '%' :: high :: low :: rest => do
    let high ← Text.hexDigit? high
    let low ← Text.hexDigit? low
    some (high * 16 + low, rest)
  | _ => none

private def continuationBytes? : Nat → List Char → Option (List Nat × List Char)
  | 0, text => some ([], text)
  | count + 1, text => do
    let (byte, text) ← escapedByte? text
    if byte / 64 ≠ 2 then failure
    let (bytes, text) ← continuationBytes? count text
    some (byte :: bytes, text)

/-- A character given by the percent escapes of its UTF-8 bytes. -/
private def escapedChar? (text : List Char) : Option (Char × List Char) := do
  let (first, text) ← escapedByte? text
  let (count, bits) ←
    if first < 0x80 then some (0, first)
    else if first / 32 = 6 then some (1, first % 32)
    else if first / 16 = 14 then some (2, first % 16)
    else if first / 8 = 30 then some (3, first % 8)
    else none
  let (bytes, text) ← continuationBytes? count text
  some (Char.ofNat (bytes.foldl (fun code byte => code * 64 + byte % 64) bits), text)

/-- Undoes the percent escapes of a tag. The fuel bounds its length. -/
private def unescapeTag? : Nat → List Char → Option (List Char)
  | 0, text => if text.isEmpty then some [] else none
  | _ + 1, [] => some []
  | fuel + 1, char :: rest =>
    if char = '%' then do
      let (char, rest) ← escapedChar? (char :: rest)
      (unescapeTag? fuel rest).map (char :: ·)
    else (unescapeTag? fuel rest).map (char :: ·)

private def tagText? (verbatim : Bool) (cursor : Cursor) : Option (List Char × Cursor) := do
  let (raw, after) := cursor.takeWhile (isTagChar verbatim)
  some (← unescapeTag? raw.length raw, after)

/-- Reads `!`, `!!` or `!name!`; without a second mark it may be the start of a suffix. -/
private def tagHandle? (cursor : Cursor) : Option (List Char × Cursor) :=
  if !cursor.startsWith '!' then none
  else
    let (name, after) := cursor.next.takeWhile isNameChar
    if after.startsWith '!' then some ('!' :: name ++ ['!'], after.next) else some ('!' :: name, after)

private def isFullHandle (handle : List Char) : Bool :=
  handle.length > 1 && handle.getLast? == some '!'

def tagName? (flow : Bool) (cursor : Cursor) : Option (TagName × Cursor) := do
  let (name, after) ←
    if cursor.rest.drop 1 |>.head?.any (· == '<') then do
      let (suffix, after) ← tagText? true (cursor.skip 2)
      if suffix.isEmpty || !after.startsWith '>' then failure
      some (({ handle := [], suffix } : TagName), after.next)
    else do
      let (handle, after) ← tagHandle? cursor
      if isFullHandle handle then
        let (suffix, after) ← tagText? false after
        if suffix.isEmpty then failure
        some ({ handle, suffix }, after)
      else
        let (more, after) ← tagText? false after
        match handle.drop 1 ++ more with
        | [] => some ({ handle := [], suffix := ['!'] }, after)
        | suffix => some ({ handle := ['!'], suffix }, after)
  if after.gapAt 0 || (flow && after.startsWith ',') then some (name, after) else none

private def number? (cursor : Cursor) : Option (Nat × Cursor) :=
  let (digits, after) := cursor.takeWhile Char.isDigit
  if digits.isEmpty || digits.length > 9 then none
  else some (digits.foldl (fun value digit => value * 10 + (digit.toNat - '0'.toNat)) 0, after)

/-- Reads a directive after its percent sign, with the rest of its line. -/
def directive? (cursor : Cursor) : Option (Token × Cursor) := do
  let (name, after) := cursor.takeWhile isNameChar
  if name.isEmpty || !after.gapAt 0 then failure
  let (_, after) := after.takeWhile isSpace
  let (token, after) ←
    if name = "YAML".toList then do
      let (major, after) ← number? after
      if !after.startsWith '.' then failure
      let (minor, after) ← number? after.next
      some (Token.versionDirective major minor, after)
    else if name = "TAG".toList then do
      let (handle, after) ← tagHandle? after
      if handle.length > 1 && !isFullHandle handle then failure
      if !after.head?.any isSpace then failure
      let (_, after) := after.takeWhile isSpace
      let (lead, after) ← tagText? true after
      if lead.isEmpty || !after.gapAt 0 then failure
      some (Token.tagDirective handle lead, after)
    else none
  some (token, ← after.endOfLine?)

end TextScenario.Yaml
