import TextScenario.Yaml.Scalar
/-!
The tokens of a whole text. Indentation opens and closes block collections, and a colon turns
what stands before it on the line into a key.
-/

namespace TextScenario.Yaml

/-- A place where a key may start. A required key must be followed by a colon. -/
structure PossibleKey where
  required : Bool
  /-- The number of the token that starts the key. -/
  token : Nat
  line : Nat
  column : Nat

/-- The tokens so far. There is one possible key for the block context and for each open flow
collection, the innermost in `key`. -/
structure Layout where
  cursor : Cursor
  tokens : Array Token := #[]
  indent : Int := -1
  outerIndents : List Int := []
  key : Option PossibleKey := none
  outerKeys : List (Option PossibleKey) := []
  keyAllowed : Bool := true

namespace Layout

def inFlow (layout : Layout) : Bool :=
  !layout.outerKeys.isEmpty

def push (layout : Layout) (token : Token) : Layout :=
  { layout with tokens := layout.tokens.push token }

def pushMark (layout : Layout) (token : Token) : Layout :=
  { layout.push token with cursor := layout.cursor.next }

/-- A block collection opens where the column is greater than the indentation. -/
def openBlock (layout : Layout) (column : Nat) (token : Token) (place : Nat) : Layout :=
  if layout.inFlow || layout.indent ≥ column then layout
  else
    { layout with
      indent := column
      outerIndents := layout.indent :: layout.outerIndents
      tokens := layout.tokens.insertIdxIfInBounds place token }

/-- Closes the block collections that are indented more than the column. -/
def closeBlocks (layout : Layout) (column : Int) : Layout :=
  if layout.inFlow then layout
  else
    let closed := (layout.indent :: layout.outerIndents).takeWhile (column < ·)
    match (layout.indent :: layout.outerIndents).drop closed.length with
    | [] => layout
    | indent :: outerIndents =>
      { layout with
        indent
        outerIndents
        tokens := layout.tokens ++ closed.map fun _ => Token.blockEnd }

def dropKey? (layout : Layout) : Option Layout :=
  if layout.key.any (·.required) then none else some { layout with key := none }

def saveKey? (layout : Layout) : Option Layout :=
  if layout.keyAllowed then do
    let layout ← layout.dropKey?
    some
      { layout with
        key := some
          { required := !layout.inFlow && layout.indent == layout.cursor.column
            token := layout.tokens.size
            line := layout.cursor.line
            column := layout.cursor.column } }
  else some layout

def greatestKey : Nat := 1024

/-- A key stands on one line and is not too long. -/
def isStale (cursor : Cursor) (key : PossibleKey) : Bool :=
  key.line < cursor.line || key.column + greatestKey < cursor.column

def dropStaleKeys? (layout : Layout) : Option Layout :=
  let stale := isStale layout.cursor
  let live := fun (key : Option PossibleKey) => key.filter (!stale ·)
  if (layout.key :: layout.outerKeys).any fun key => key.any fun key => key.required && stale key then none
  else some { layout with key := live layout.key, outerKeys := layout.outerKeys.map live }

/-- Goes past blanks, comments and line breaks. In block context a line break allows a key, and
tabs may not stand where a key may. -/
def skipGaps : Nat → Layout → Layout
  | 0, layout => layout
  | fuel + 1, layout =>
    let cursor := layout.cursor
    let cursor :=
      if cursor.column == 0 && cursor.startsWith '\ufeff' then cursor.next else cursor
    let tabs := layout.inFlow || !layout.keyAllowed
    let (_, cursor) := cursor.takeWhile fun char => char == ' ' || (tabs && char == '\t')
    let cursor :=
      if cursor.startsWith '#' then (cursor.takeWhile fun char => !isBreak char).2 else cursor
    if cursor.head?.any isBreak then
      skipGaps fuel
        { layout with cursor := cursor.next, keyAllowed := layout.keyAllowed || !layout.inFlow }
    else { layout with cursor }

def openFlow? (layout : Layout) (token : Token) : Option Layout := do
  let layout ← layout.saveKey?
  some { layout.pushMark token with
    outerKeys := layout.key :: layout.outerKeys, key := none, keyAllowed := true }

def closeFlow? (layout : Layout) (token : Token) : Option Layout := do
  let layout ← layout.dropKey?
  let layout := { layout.pushMark token with keyAllowed := false }
  match layout.outerKeys with
  | [] => some layout
  | key :: outerKeys => some { layout with key, outerKeys }

def flowEntry? (layout : Layout) : Option Layout := do
  let layout ← layout.dropKey?
  some { layout.pushMark .flowEntry with keyAllowed := true }

/-- Opens a block collection at a mark of its own. -/
def openAtMark? (layout : Layout) (token : Token) : Option Layout :=
  if layout.inFlow then some layout
  else if layout.keyAllowed then
    some (layout.openBlock layout.cursor.column token layout.tokens.size)
  else none

def blockEntry? (layout : Layout) : Option Layout := do
  let layout ← layout.openAtMark? .blockSequenceStart
  let layout ← layout.dropKey?
  some { layout.pushMark .blockEntry with keyAllowed := true }

def explicitKey? (layout : Layout) : Option Layout := do
  let layout ← layout.openAtMark? .blockMappingStart
  let layout ← layout.dropKey?
  some { layout.pushMark .key with keyAllowed := !layout.inFlow }

def value? (layout : Layout) : Option Layout :=
  match layout.key with
  | some key =>
    let layout := { layout with tokens := layout.tokens.insertIdxIfInBounds key.token .key }
    let layout := layout.openBlock key.column .blockMappingStart key.token
    some { layout.pushMark .value with key := none, keyAllowed := false }
  | none => do
    let layout ← layout.openAtMark? .blockMappingStart
    some { layout.pushMark .value with keyAllowed := !layout.inFlow }

/-- Reads a token that may start a key. -/
def named? (layout : Layout) (read : Cursor → Option (Token × Cursor)) : Option Layout := do
  let layout ← layout.saveKey?
  let (token, cursor) ← read layout.cursor
  some { layout.push token with cursor, keyAllowed := false }

def anchor? (cursor : Cursor) : Option (Token × Cursor) :=
  (anchorName? cursor.next).map fun (name, cursor) => (.anchor name, cursor)

def alias? (cursor : Cursor) : Option (Token × Cursor) :=
  (anchorName? cursor.next).map fun (name, cursor) => (.alias name, cursor)

def tag? (flow : Bool) (cursor : Cursor) : Option (Token × Cursor) :=
  (tagName? flow cursor).map fun (name, cursor) => (.tag name, cursor)

def quoted? (double : Bool) (cursor : Cursor) : Option (Token × Cursor) :=
  (quotedText? double (cursor.rest.length + 1) [] cursor.next).map fun (text, cursor) =>
    (.scalar (if double then .doubleQuoted else .singleQuoted) text, cursor)

def block? (layout : Layout) (folded : Bool) : Option Layout := do
  let layout ← layout.dropKey?
  let (text, cursor) ← blockText? folded (layout.indent + 1).toNat layout.cursor.next
  let token := Token.scalar (if folded then .folded else .literal) text
  some { layout.push token with cursor, keyAllowed := true }

def plain? (layout : Layout) : Option Layout := do
  let layout ← layout.saveKey?
  let fuel := layout.cursor.rest.length + 1
  let (text, broken, cursor) ←
    plainText? layout.inFlow (layout.indent + 1).toNat fuel [] [] layout.cursor
  some { layout.push (.scalar .plain text) with cursor, keyAllowed := broken }

/-- Closes everything before a directive, a document mark or the end. -/
def closeAll? (layout : Layout) : Option Layout := do
  let layout ← (layout.closeBlocks (-1)).dropKey?
  some { layout with keyAllowed := false }

def documentMark? (layout : Layout) (token : Token) : Option Layout := do
  let layout ← layout.closeAll?
  some { layout.push token with cursor := layout.cursor.skip 3 }

def directiveLine? (layout : Layout) : Option Layout := do
  let layout ← layout.closeAll?
  let (token, cursor) ← directive? layout.cursor.next
  some { layout.push token with cursor }

/-- Characters that cannot start a plain scalar on their own. -/
def isIndicator (char : Char) : Bool :=
  "-?:,[]\x7b\x7d#&*!|>'\"%@`".toList.contains char

def startsPlain (layout : Layout) (char : Char) : Bool :=
  let next := layout.cursor.rest.drop 1 |>.head?
  (!isGap char && !isIndicator char) || (char == '-' && !next.any isSpace) ||
    (!layout.inFlow && (char == '?' || char == ':') && !layout.cursor.gapAt 1)

def token? (layout : Layout) (char : Char) : Option Layout :=
  let cursor := layout.cursor
  let alone := layout.inFlow || cursor.gapAt 1
  if cursor.column = 0 ∧ char = '%' then layout.directiveLine?
  else if cursor.atMark '-' then layout.documentMark? .documentStart
  else if cursor.atMark '.' then layout.documentMark? .documentEnd
  else if char = '[' then layout.openFlow? .flowSequenceStart
  else if char = '{' then layout.openFlow? .flowMappingStart
  else if char = ']' then layout.closeFlow? .flowSequenceEnd
  else if char = '}' then layout.closeFlow? .flowMappingEnd
  else if char = ',' then layout.flowEntry?
  else if char = '-' ∧ cursor.gapAt 1 then layout.blockEntry?
  else if char = '?' ∧ alone then layout.explicitKey?
  else if char = ':' ∧ alone then layout.value?
  else if char = '*' then layout.named? alias?
  else if char = '&' then layout.named? anchor?
  else if char = '!' then layout.named? (tag? layout.inFlow)
  else if char = '|' ∧ !layout.inFlow then layout.block? false
  else if char = '>' ∧ !layout.inFlow then layout.block? true
  else if char = '\'' then layout.named? (quoted? false)
  else if char = '"' then layout.named? (quoted? true)
  else if layout.startsPlain char then layout.plain?
  else none

/-- Reads tokens to the end of the text. The fuel bounds their number. -/
def finish? : Nat → Layout → Option Layout
  | 0, _ => none
  | fuel + 1, layout => do
    let layout := layout.skipGaps (layout.cursor.rest.length + 1)
    let layout ← layout.dropStaleKeys?
    let layout := layout.closeBlocks layout.cursor.column
    match layout.cursor.rest with
    | [] => (← layout.closeAll?).push .streamEnd
    | char :: _ => finish? fuel (← layout.token? char)

end Layout

def tokens? (text : String) : Option (List Token) := do
  let chars := text.toList
  if !chars.all isPrintable then failure
  let layout ← Layout.finish? (chars.length + 1) { cursor := { rest := normalizeBreaks chars } }
  some layout.tokens.toList

end TextScenario.Yaml
