import TextScenario.Yaml.Token
/-!
Reading scalars. Line breaks inside quoted and plain scalars are folded: a single break becomes
a space, and of several breaks the first is dropped.
-/

namespace TextScenario.Yaml

/-- What a run of blanks and line breaks inside a scalar becomes. -/
def foldGap (gap : List Char) : List Char :=
  match gap.filter isBreak with
  | [] => gap
  | ['\n'] => [' ']
  | '\n' :: more => more
  | breaks => breaks

/-- The character after a backslash, with the number of hexadecimal digits that follow it. -/
def escapeOf? : Char → Option (Sum Char Nat)
  | '0' => some (.inl '\x00')
  | 'a' => some (.inl '\x07')
  | 'b' => some (.inl '\x08')
  | 't' => some (.inl '\t')
  | '\t' => some (.inl '\t')
  | 'n' => some (.inl '\n')
  | 'v' => some (.inl '\x0b')
  | 'f' => some (.inl '\x0c')
  | 'r' => some (.inl '\r')
  | 'e' => some (.inl '\x1b')
  | ' ' => some (.inl ' ')
  | '"' => some (.inl '"')
  | '/' => some (.inl '/')
  | '\\' => some (.inl '\\')
  | 'N' => some (.inl '\u0085')
  | '_' => some (.inl '\u00a0')
  | 'L' => some (.inl '\u2028')
  | 'P' => some (.inl '\u2029')
  | 'x' => some (.inr 2)
  | 'u' => some (.inr 4)
  | 'U' => some (.inr 8)
  | _ => none

/-- The character with a given hexadecimal code; surrogates are none. -/
def charOfHex? (digits : List Char) (length : Nat) : Option Char :=
  let code := Text.hexValue digits
  if digits.length < length || !digits.all fun digit => (Text.hexDigit? digit).isSome then none
  else if code.isValidChar then some (Char.ofNat code)
  else none

/-- Reads a quoted scalar after its opening quote. `read` holds its text in reverse order, and
the fuel bounds its length. -/
def quotedText? (double : Bool) : Nat → List Char → Cursor → Option (List Char × Cursor)
  | 0, _, _ => none
  | fuel + 1, read, cursor =>
    if cursor.atDocumentMark then none
    else match cursor.rest with
      | [] => none
      | char :: rest =>
        if isGap char then
          let (gap, after) := cursor.takeWhile isGap
          quotedText? double fuel ((foldGap gap).reverse ++ read) after
        else if !double && char == '\'' then
          match rest with
          | '\'' :: _ => quotedText? double fuel ('\'' :: read) (cursor.skip 2)
          | _ => some (read.reverse, cursor.next)
        else if double && char == '"' then some (read.reverse, cursor.next)
        else if double && char == '\\' then
          match rest with
          | [] => none
          | code :: digits =>
            if isBreak code then
              let (gap, after) := (cursor.skip 2).takeWhile isGap
              quotedText? double fuel ((gap.filter isBreak).reverse ++ read) after
            else match escapeOf? code with
              | none => none
              | some (.inl char) => quotedText? double fuel (char :: read) (cursor.skip 2)
              | some (.inr length) =>
                match charOfHex? (digits.take length) length with
                | none => none
                | some char => quotedText? double fuel (char :: read) (cursor.skip (2 + length))
        else quotedText? double fuel (char :: read) cursor.next

/-- The word of a plain scalar at the start of a text. Inside flow collections a colon must not
stand before punctuation. -/
def plainWord? (flow : Bool) : List Char → Option (List Char)
  | [] => some []
  | char :: rest =>
    if isGap char then some []
    else if flow && char == ':' && rest.head?.any fun next => ",?[]\x7b\x7d".toList.contains next then
      none
    else if (char == ':' && rest.head?.all isGap) ||
        (flow && ",[]\x7b\x7d".toList.contains char) then
      some []
    else (plainWord? flow rest).map (char :: ·)

/-- Whether a gap has a tab among the first `indent` characters of one of its later lines. -/
def tabsIndent (indent : Nat) (gap : List Char) : Bool :=
  ((Text.splitWhere isBreak gap).drop 1).any fun line => (line.take indent).contains '\t'

/-- Reads a plain scalar word by word. `gap` is what was read since the last word. The result
tells whether a line break was read after the last word. -/
def plainText? (flow : Bool) (indent : Nat) :
    Nat → List Char → List Char → Cursor → Option (List Char × Bool × Cursor)
  | 0, _, _, _ => none
  | fuel + 1, read, gap, cursor =>
    if cursor.atDocumentMark || cursor.startsWith '#' then some (read.reverse, gap.any isBreak, cursor)
    else match plainWord? flow cursor.rest with
      | none => none
      | some word =>
        let after := cursor.skip word.length
        let (read, gap) :=
          if word.isEmpty then (read, gap)
          else (word.reverse ++ (foldGap gap).reverse ++ read, [])
        if after.head?.any isGap then
          let (gap, next) := after.takeWhile isGap
          if tabsIndent indent gap then none
          else if !flow && next.column < indent then some (read.reverse, gap.any isBreak, next)
          else plainText? flow indent fuel read gap next
        else some (read.reverse, gap.any isBreak, after)

/-- The header of a block scalar: `1` keeps all final line breaks, `-1` none. -/
structure BlockHeader where
  chomping : Int := 0
  indentation : Nat := 0

private def chompingOf? : Char → Option Int
  | '+' => some 1
  | '-' => some (-1)
  | _ => none

private def indentationOf? (char : Char) : Option Nat :=
  if char.isDigit then some (char.toNat - '0'.toNat) else none

/-- Reads the marks after `|` or `>`, which come in either order. -/
def BlockHeader.read? (cursor : Cursor) : Option (BlockHeader × Cursor) := do
  let (header, after) :=
    match cursor.head?.bind chompingOf? with
    | some chomping =>
      match cursor.next.head?.bind indentationOf? with
      | some indentation => ((some indentation, chomping), cursor.skip 2)
      | none => ((none, chomping), cursor.next)
    | none =>
      match cursor.head?.bind indentationOf? with
      | some indentation =>
        match cursor.next.head?.bind chompingOf? with
        | some chomping => ((some indentation, chomping), cursor.skip 2)
        | none => ((some indentation, 0), cursor.next)
      | none => ((none, 0), cursor)
  if header.1 = some 0 then failure
  some ({ chomping := header.2, indentation := header.1.getD 0 }, ← after.endOfLine?)

/-- Reads indentation and blank lines. While the indentation is not known it is zero, and the
widest line is reported. -/
def blankLines? (indent : Nat) : Nat → List Char → Nat → Cursor → Option (List Char × Nat × Cursor)
  | 0, _, _, _ => none
  | fuel + 1, breaks, widest, cursor =>
    let open_ := fun (cursor : Cursor) => indent == 0 || cursor.column < indent
    match cursor.rest with
    | [] => some (breaks.reverse, max widest cursor.column, cursor)
    | char :: _ =>
      if char = ' ' ∧ open_ cursor then blankLines? indent fuel breaks widest cursor.next
      else
        let widest := max widest cursor.column
        if char = '\t' ∧ open_ cursor then none
        else if isBreak char then blankLines? indent fuel (char :: breaks) widest cursor.next
        else some (breaks.reverse, widest, cursor)

/-- The lines of a block scalar. `last` is the break that ended the last line and `breaks` are
the blank lines after it. -/
def blockLines? (folded : Bool) (indent : Nat) : Nat → List Char → List Char → List Char → Bool →
    Cursor → Option (List Char × List Char × List Char × Cursor)
  | 0, _, _, _, _, _ => none
  | fuel + 1, read, last, breaks, leadingBlank, cursor =>
    if cursor.column ≠ indent ∨ cursor.rest = [] then some (read, last, breaks, cursor)
    else do
      let blank := cursor.head?.any isSpace
      let joint :=
        if folded && last == ['\n'] && !leadingBlank && !blank then
          (if breaks.isEmpty then [' '] else breaks)
        else last ++ breaks
      let (line, after) := cursor.takeWhile fun char => !isBreak char
      let last := after.rest.take 1
      let (breaks, _, next) ← blankLines? indent (after.rest.length + 1) [] 0 after.next
      blockLines? folded indent fuel (read ++ joint ++ line) last breaks blank next

/-- Reads a block scalar after its mark. `parent` is the least indentation that it may have. -/
def blockText? (folded : Bool) (parent : Nat) (cursor : Cursor) : Option (List Char × Cursor) := do
  let (header, cursor) ← BlockHeader.read? cursor
  let known := if header.indentation = 0 then 0 else parent - 1 + header.indentation
  let fuel := cursor.rest.length + 1
  let (breaks, widest, cursor) ← blankLines? known fuel [] 0 cursor
  let indent := if known = 0 then max widest (max parent 1) else known
  let (read, last, breaks, cursor) ← blockLines? folded indent fuel [] [] breaks false cursor
  let last := if header.chomping = -1 then [] else last
  let breaks := if header.chomping = 1 then breaks else []
  some (read ++ last ++ breaks, cursor)

end TextScenario.Yaml
