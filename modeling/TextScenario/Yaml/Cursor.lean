/-!
A place in a YAML text: what is still to be read, with its line and column. All line breaks but
the two separator characters are turned into line feeds beforehand.
-/

namespace TextScenario.Yaml

structure Cursor where
  rest : List Char
  line : Nat := 0
  column : Nat := 0
  deriving Inhabited

def isBreak (char : Char) : Bool :=
  char == '\n' || char == '\u2028' || char == '\u2029'

def isSpace (char : Char) : Bool :=
  char == ' ' || char == '\t'

def isGap (char : Char) : Bool :=
  isSpace char || isBreak char

def isNameChar (char : Char) : Bool :=
  char.isAlphanum || char == '_' || char == '-'

/-- Control characters may not stand in a text, tabs and line breaks aside. -/
def isPrintable (char : Char) : Bool :=
  let code := char.toNat
  code == 9 || code == 10 || code == 13 || (0x20 ≤ code && code ≤ 0x7E) || code == 0x85 ||
    (0xA0 ≤ code && code ≤ 0xD7FF) || (0xE000 ≤ code && code ≤ 0xFFFD) || 0x10000 ≤ code

def normalizeBreaks : List Char → List Char
  | [] => []
  | '\r' :: '\n' :: rest => '\n' :: normalizeBreaks rest
  | char :: rest =>
    (if char = '\r' ∨ char = '\u0085' then '\n' else char) :: normalizeBreaks rest

namespace Cursor

def next (cursor : Cursor) : Cursor :=
  match cursor.rest with
  | [] => cursor
  | char :: rest =>
    if isBreak char then { rest, line := cursor.line + 1, column := 0 }
    else { rest, line := cursor.line, column := cursor.column + 1 }

def skip : Nat → Cursor → Cursor
  | 0, cursor => cursor
  | count + 1, cursor => skip count cursor.next

def takeWhile (test : Char → Bool) (cursor : Cursor) : List Char × Cursor :=
  let taken := cursor.rest.takeWhile test
  (taken, cursor.skip taken.length)

def head? (cursor : Cursor) : Option Char :=
  cursor.rest.head?

def startsWith (cursor : Cursor) (char : Char) : Bool :=
  cursor.head? == some char

/-- Whether a gap or the end of the text follows after `offset` characters. -/
def gapAt (cursor : Cursor) (offset : Nat) : Bool :=
  (cursor.rest.drop offset).head?.all isGap

/-- Whether `---` or `...` stands alone at the start of a line. -/
def atMark (cursor : Cursor) (mark : Char) : Bool :=
  cursor.column == 0 && cursor.rest.take 3 == [mark, mark, mark] && cursor.gapAt 3

def atDocumentMark (cursor : Cursor) : Bool :=
  cursor.atMark '-' || cursor.atMark '.'

/-- Goes past blanks and a comment, which must end the line. -/
def endOfLine? (cursor : Cursor) : Option Cursor :=
  let (_, cursor) := cursor.takeWhile isSpace
  let cursor :=
    if cursor.startsWith '#' then (cursor.takeWhile fun char => !isBreak char).2 else cursor
  match cursor.rest with
  | [] => some cursor
  | char :: _ => if isBreak char then some cursor.next else none

end Cursor

end TextScenario.Yaml
