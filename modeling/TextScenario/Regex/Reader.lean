import TextScenario.Regex.Engine
import TextScenario.Text.CodeTable
/-!
Reading expressions. Groups, branches and sequences are kept on a stack of open groups; brackets
have a stack of their own. Flags hold from where they are set to the end of their group. Anything
outside the grammar gives no expression.
-/

namespace TextScenario.Regex

structure Flags where
  ignoreCase : Bool := false
  multiLine : Bool := false
  dotAll : Bool := false
  swapGreed : Bool := false
  crlf : Bool := false
  ignoreBlanks : Bool := false
  unicode : Bool := true
  deriving DecidableEq, Repr

def greatestNesting : Nat := 250

/-- An expression with the number of containers nested in it. -/
structure Node where
  regex : Regex
  depth : Nat := 0

inductive Item where
  | node (node : Node)
  | flags

def Item.node? : Item → Option Node
  | .node own => some own
  | .flags => none

/-- What an open group will go back to when it is closed. -/
structure OpenGroup where
  items : List Item
  branches : List Node
  flags : Flags
  capture : Option (Nat × Option String)

/-- The state of reading; sequences and branches are in reverse order. -/
structure Reading where
  flags : Flags := {}
  items : List Item := []
  branches : List Node := []
  outer : List OpenGroup := []
  groups : Nat := 0
  names : List String := []

/-- What one primitive of the grammar stands for. -/
inductive Atom where
  | char (char : Char) (isByte : Bool)
  | set (set : CharSet)
  | look (look : Look)

def isMeta (char : Char) : Bool :=
  ['\\', '.', '+', '*', '?', '(', ')', '|', '[', ']', '{', '}', '^', '$', '#', '&', '-',
    '~'].contains char

/-- Characters that may follow a backslash without need. -/
def isEscapable (char : Char) : Bool :=
  isMeta char ||
    (char.toNat < 128 && !char.isAlphanum && char != '<' && char != '>')

def skipBlanks : Nat → List Char → List Char
  | 0, text => text
  | fuel + 1, '#' :: rest => skipBlanks fuel (rest.dropWhile (· != '\n'))
  | fuel + 1, char :: rest => if Text.isBlank char then skipBlanks fuel rest else char :: rest
  | _, [] => []

/-- Skips blanks and comments where the flags say that they do not count. -/
def skip (flags : Flags) (text : List Char) : List Char :=
  if flags.ignoreBlanks then skipBlanks text.length text else text

private def charOfCode? (code : Nat) : Option Char :=
  if code < 0xD800 ∨ (0xE000 ≤ code ∧ code < 0x110000) then some (Char.ofNat code) else none

private def isHex (char : Char) : Bool :=
  (Text.hexDigit? char).isSome

/-- A code in hexadecimal: `count` digits, or any number of them in braces. -/
def readHex (flags : Flags) (count : Nat) (text : List Char) : Option (Char × Bool × List Char) :=
  match skip flags text with
  | '{' :: rest =>
    let digits := rest.takeWhile (· != '}')
    match rest.drop digits.length with
    | '}' :: after =>
      let digits := digits.filter fun char => !(flags.ignoreBlanks && Text.isBlank char)
      if digits.isEmpty ∨ !digits.all isHex then none
      else (charOfCode? (Text.hexValue digits)).map (·, false, after)
    | _ => none
  | rest =>
    let digits := rest.take count
    if digits.length ≠ count ∨ !digits.all isHex then none
    else (charOfCode? (Text.hexValue digits)).map (·, count == 2, rest.drop count)

def foldWith (flags : Flags) (set : CharSet) : CharSet :=
  if !flags.ignoreCase then set
  else if flags.unicode then .folded set
  else .foldedAscii set

private def asciiRanges (ranges : List (Char × Char)) : CharSet :=
  CharSet.ofRanges ranges

/-- The set of `\d`, `\s` and `\w`, or of their capital forms. -/
def perlSet (flags : Flags) (letter : Char) : CharSet :=
  let set : CharSet :=
    match letter.toLower with
    | 'd' => if flags.unicode then .property .decimalDigit else asciiRanges [('0', '9')]
    | 's' => if flags.unicode then .property .blank else asciiRanges [('\t', '\r'), (' ', ' ')]
    | _ =>
      if flags.unicode then .property .word
      else asciiRanges [('0', '9'), ('A', 'Z'), ('_', '_'), ('a', 'z')]
  if letter.isUpper then .complement set else set

variable [Engine]

def setNamed? (name : List Char) : Option CharSet :=
  (namedSet? name).orElse fun _ => Engine.named? (normalName name)

def setValued? (name value : List Char) : Option CharSet :=
  (valuedSet? name value).orElse fun _ => Engine.valued? (normalName name) (normalName value)

def readNamedSet (flags : Flags) (negated : Bool) (text : List Char) :
    Option (CharSet × List Char) :=
  let finish (set : CharSet) (negated : Bool) : CharSet :=
    let set := foldWith flags set
    if negated then .complement set else set
  if !flags.unicode then none
  else match skip flags text with
    | '{' :: rest =>
      let name := rest.takeWhile (· != '}')
      match rest.drop name.length with
      | '}' :: after =>
        let cut := name.takeWhile fun char => char != '=' && char != ':'
        match name.drop cut.length with
        | [] => (setNamed? name).map fun set => (finish set negated, after)
        | _ :: value =>
          match cut.reverse with
          | '!' :: before =>
            (setValued? before.reverse value).map fun set => (finish set (!negated), after)
          | _ => (setValued? cut value).map fun set => (finish set negated, after)
      | _ => none
    | char :: rest =>
      if char = '\\' then none
      else (namedSet? [char]).map fun set => (finish set negated, rest)
    | [] => none

/-- A word boundary, which may say in braces which side it is on. -/
def readBoundary (flags : Flags) (text : List Char) : Option (Look × List Char) :=
  let plain := if flags.unicode then Look.wordBoundary else .asciiWordBoundary
  match text with
  | '{' :: rest =>
    match skip flags rest with
    | [] => none
    | first :: _ =>
      if first.isAlpha || first == '-' then
        let name := (skip flags rest).takeWhile fun char => char.isAlpha || char == '-'
        match (skip flags rest).drop name.length with
        | '}' :: after =>
          match String.ofList name with
          | "start" => some (if flags.unicode then .wordStart else .asciiWordStart, after)
          | "end" => some (if flags.unicode then .wordEnd else .asciiWordEnd, after)
          | "start-half" => some (if flags.unicode then .wordStartHalf else .asciiWordStartHalf, after)
          | "end-half" => some (if flags.unicode then .wordEndHalf else .asciiWordEndHalf, after)
          | _ => none
        | _ => none
      else some (plain, text)
  | _ => some (plain, text)

def readEscape (flags : Flags) : List Char → Option (Atom × List Char)
  | [] => none
  | char :: rest =>
    match char with
    | 'x' => (readHex flags 2 rest).map fun (char, isByte, rest) => (.char char isByte, rest)
    | 'u' => (readHex flags 4 rest).map fun (char, isByte, rest) => (.char char isByte, rest)
    | 'U' => (readHex flags 8 rest).map fun (char, isByte, rest) => (.char char isByte, rest)
    | 'p' => (readNamedSet flags false rest).map fun (set, rest) => (.set set, rest)
    | 'P' => (readNamedSet flags true rest).map fun (set, rest) => (.set set, rest)
    | 'd' | 's' | 'w' | 'D' | 'S' | 'W' => some (.set (perlSet flags char), rest)
    | 'a' => some (.char '\x07' false, rest)
    | 'f' => some (.char '\x0c' false, rest)
    | 't' => some (.char '\t' false, rest)
    | 'n' => some (.char '\n' false, rest)
    | 'r' => some (.char '\r' false, rest)
    | 'v' => some (.char '\x0b' false, rest)
    | 'A' => some (.look .textStart, rest)
    | 'z' => some (.look .textEnd, rest)
    | 'b' => (readBoundary flags rest).map fun (kind, rest) => (.look kind, rest)
    | 'B' =>
      some (.look (if flags.unicode then .notWordBoundary else .asciiNotWordBoundary), rest)
    | '<' => some (.look (if flags.unicode then .wordStart else .asciiWordStart), rest)
    | '>' => some (.look (if flags.unicode then .wordEnd else .asciiWordEnd), rest)
    | _ => if isEscapable char then some (.char char false, rest) else none

inductive SetOperation where
  | intersection
  | difference
  | symmetricDifference

/-- An open bracket: the left side of a set operation that waits for its right side, and the
members read since. -/
structure OpenBracket where
  negated : Bool
  pending : Option (SetOperation × CharSet) := none
  members : CharSet := .nothing

def OpenBracket.add (bracket : OpenBracket) (set : CharSet) : OpenBracket :=
  { bracket with members := .union bracket.members set }

def OpenBracket.isEmpty (bracket : OpenBracket) : Bool :=
  bracket.members matches .nothing

/-- The set read so far, with a waiting operation applied. -/
def OpenBracket.value (flags : Flags) (bracket : OpenBracket) : CharSet :=
  let right := foldWith flags bracket.members
  match bracket.pending with
  | none => right
  | some (.intersection, left) => .intersection left right
  | some (.difference, left) => .difference left right
  | some (.symmetricDifference, left) => .symmetricDifference left right

def OpenBracket.operate (flags : Flags) (operation : SetOperation) (bracket : OpenBracket) :
    OpenBracket :=
  { bracket with pending := some (operation, bracket.value flags), members := .nothing }

def OpenBracket.close (flags : Flags) (bracket : OpenBracket) : CharSet :=
  if bracket.negated then .complement (bracket.value flags) else bracket.value flags

/-- Whether the set is negated, which a caret says. -/
def readCaret (flags : Flags) : List Char → Bool × List Char
  | '^' :: rest => (true, skip flags rest)
  | text => (false, text)

def readHyphens (flags : Flags) : Nat → OpenBracket → List Char → OpenBracket × List Char
  | fuel + 1, bracket, '-' :: rest => readHyphens flags fuel (bracket.add (.single '-')) (skip flags rest)
  | _, bracket, text => (bracket, text)

/-- What follows an opening bracket: a caret, hyphens, and a closing bracket stand at the start
with a meaning of their own. -/
def openBracket (flags : Flags) (text : List Char) : Option (OpenBracket × List Char) :=
  let (negated, text) := readCaret flags (skip flags text)
  let (bracket, rest) := readHyphens flags text.length { negated } text
  match rest with
  | [] => none
  | ']' :: after =>
    if bracket.isEmpty then some (bracket.add (.single ']'), skip flags after)
    else some (bracket, rest)
  | _ => some (bracket, rest)

def readClassName (negated : Bool) (text : List Char) : Option (CharSet × List Char) :=
  let name := text.takeWhile (· != ':')
  match text.drop name.length with
  | ':' :: ']' :: after =>
    (asciiClass? (String.ofList name)).map fun set =>
      (if negated then .complement set else set, after)
  | _ => none

def readAsciiClass : List Char → Option (CharSet × List Char)
  | ':' :: '^' :: rest => readClassName true rest
  | ':' :: rest => readClassName false rest
  | _ => none

/-- Sets of bytes have no characters beyond ASCII, and a condition on a place is no member of a set. -/
def memberAllowed (flags : Flags) : Atom → Bool
  | .char char isByte => flags.unicode || (char.toNat < 128 || isByte)
  | .set _ => true
  | .look _ => false

def readMember (flags : Flags) : List Char → Option (Atom × List Char)
  | [] => none
  | '\\' :: rest => (readEscape flags rest).filter fun read => memberAllowed flags read.1
  | char :: rest => if memberAllowed flags (.char char false) then some (.char char false, rest) else none

def Atom.members : Atom → CharSet
  | .char own _ => .single own
  | .set own => own
  | .look _ => .nothing

def Atom.range? : Atom → Atom → Option CharSet
  | .char first _, .char last _ => if first ≤ last then some (.range first last) else none
  | _, _ => none

def readRange (flags : Flags) (text : List Char) : Option (CharSet × List Char) := do
  let (first, rest) ← readMember flags text
  let rest := skip flags rest
  match rest with
  | [] => none
  | '-' :: after =>
    match skip flags after with
    | [] => none
    | ']' :: _ | '-' :: _ => some (first.members, rest)
    | after => do
      let (last, rest) ← readMember flags after
      (first.range? last).map (·, rest)
  | _ => some (first.members, rest)

/-- Reads to the end of the outermost bracket. Also gives the deepest nesting. -/
def readBrackets (flags : Flags) :
    Nat → Nat → OpenBracket → List OpenBracket → List Char → Option (CharSet × Nat × List Char)
  | 0, _, _, _, _ => none
  | fuel + 1, deepest, bracket, outer, text =>
    match skip flags text with
    | [] => none
    | '[' :: rest =>
      match readAsciiClass rest with
      | some (set, rest) => readBrackets flags fuel deepest (bracket.add set) outer rest
      | none => do
        let (inner, rest) ← openBracket flags rest
        readBrackets flags fuel (max deepest (outer.length + 2)) inner (bracket :: outer) rest
    | ']' :: rest =>
      match outer with
      | [] => some (bracket.close flags, deepest, rest)
      | parent :: outer =>
        readBrackets flags fuel deepest (parent.add (bracket.close flags)) outer rest
    | '&' :: '&' :: rest =>
      readBrackets flags fuel deepest (bracket.operate flags .intersection) outer rest
    | '-' :: '-' :: rest =>
      readBrackets flags fuel deepest (bracket.operate flags .difference) outer rest
    | '~' :: '~' :: rest =>
      readBrackets flags fuel deepest (bracket.operate flags .symmetricDifference) outer rest
    | text => do
      let (set, rest) ← readRange flags text
      readBrackets flags fuel deepest (bracket.add set) outer rest

/-- A bracketed set, after its opening bracket. Sets of bytes must stay within ASCII. -/
def readSet (flags : Flags) (text : List Char) : Option (CharSet × Nat × List Char) := do
  let (bracket, rest) ← openBracket flags text
  let (set, depth, rest) ← readBrackets flags (rest.length + 1) 1 bracket [] rest
  if flags.unicode ∨ set.withinAscii then some (set, depth, rest) else none

namespace Reading

def push (reading : Reading) (node : Node) : Reading :=
  { reading with items := .node node :: reading.items }

def pushChars (reading : Reading) (set : CharSet) (depth : Nat := 0) : Reading :=
  reading.push { regex := .chars set, depth }

def sequence (items : List Item) : Node :=
  let nodes := items.reverse.filterMap Item.node?
  let depth := nodes.foldl (fun depth node => max depth node.depth) 0
  let regex :=
    match nodes with
    | [] => .empty
    | first :: rest => rest.foldl (fun regex node => .concat regex node.regex) first.regex
  { regex, depth := if items.length < 2 then depth else depth + 1 }

def choice (reading : Reading) : Node :=
  let last := sequence reading.items
  match reading.branches.reverse with
  | [] => last
  | first :: rest =>
    let nodes := rest ++ [last]
    { regex := nodes.foldl (fun regex node => .alternate regex node.regex) first.regex
      depth := nodes.foldl (fun depth node => max depth node.depth) first.depth + 1 }

def startBranch (reading : Reading) : Reading :=
  { reading with branches := sequence reading.items :: reading.branches, items := [] }

def openGroup (reading : Reading) (capture : Option (Nat × Option String)) (inner : Flags) :
    Reading :=
  { reading with
    flags := inner
    items := []
    branches := []
    outer :=
      { items := reading.items
        branches := reading.branches
        flags := reading.flags
        capture } :: reading.outer }

def closeGroup (reading : Reading) : Option Reading :=
  match reading.outer with
  | [] => none
  | parent :: outer =>
    let inner := reading.choice
    let regex :=
      match parent.capture with
      | none => inner.regex
      | some (index, name) => .group index name inner.regex
    some
      { reading with
        flags := parent.flags
        items := .node { regex, depth := inner.depth + 1 } :: parent.items
        branches := parent.branches
        outer }

/-- Whether a question mark changes how greedy a repetition is. -/
def readLazy : List Char → Bool × List Char
  | '?' :: rest => (true, rest)
  | text => (false, text)

/-- Repeats the last item, which must be something that can be repeated. -/
def repeatLast (reading : Reading) (least : Nat) (most : Option Nat) (text : List Char) :
    Option (Reading × List Char) :=
  match reading.items with
  | .node node :: items =>
    let (lazy, rest) := readLazy text
    let greedy := lazy == reading.flags.swapGreed
    let repeated := { regex := repeating node.regex least most greedy, depth := node.depth + 1 }
    some ({ reading with items := .node repeated :: items }, rest)
  | _ => none

def readDecimal (text : List Char) : Option (Nat × List Char) :=
  let text := text.dropWhile Text.isBlank
  let digits := text.takeWhile Char.isDigit
  let value := digits.foldl (fun value char => value * 10 + (char.toNat - '0'.toNat)) 0
  if digits.isEmpty ∨ 0x100000000 ≤ value then none
  else some (value, (text.drop digits.length).dropWhile Text.isBlank)

/-- The bounds of a repetition up to a closing brace. -/
def readBounds (flags : Flags) (text : List Char) : Option (Nat × Option Nat × List Char) := do
  let (least, rest) ← readDecimal (skip flags text)
  match rest with
  | ',' :: rest =>
    match skip flags rest with
    | '}' :: rest => some (least, none, rest)
    | rest => do
      let (most, rest) ← readDecimal rest
      match rest with
      | '}' :: rest => if least ≤ most then some (least, some most, rest) else none
      | _ => none
  | '}' :: rest => some (least, some least, rest)
  | _ => none

def repeatCounted (reading : Reading) (text : List Char) : Option (Reading × List Char) := do
  let (least, most, rest) ← readBounds reading.flags text
  reading.repeatLast least most rest

private def setFlag (flags : Flags) (value : Bool) : Char → Option Flags
  | 'i' => some { flags with ignoreCase := value }
  | 'm' => some { flags with multiLine := value }
  | 's' => some { flags with dotAll := value }
  | 'U' => some { flags with swapGreed := value }
  | 'u' => some { flags with unicode := value }
  | 'R' => some { flags with crlf := value }
  | 'x' => some { flags with ignoreBlanks := value }
  | _ => none

/-- Flags up to a colon or a closing parenthesis, no letter twice and at most one hyphen, which
may not be last. -/
def readFlags (flags : Flags) (seen : List Char) : List Char → Option (Flags × List Char × List Char)
  | [] => none
  | char :: rest =>
    if char = ':' ∨ char = ')' then
      if seen.head? = some '-' then none else some (flags, seen, char :: rest)
    else if seen.contains char then none
    else if char = '-' then readFlags flags (char :: seen) rest
    else match setFlag flags (!seen.contains '-') char with
      | none => none
      | some flags => readFlags flags (char :: seen) rest

/-- Letters; the table is only needed beyond ASCII. -/
def isLetter (char : Char) : Bool :=
  char.isAlpha || (128 ≤ char.toNat && Text.alphabeticSet.contains char)

/-- Numbers of any kind; the tables are only needed beyond ASCII. -/
def isNumber (char : Char) : Bool :=
  char.isDigit || (128 ≤ char.toNat &&
    [Text.Category.decimalNumber, .letterNumber, .otherNumber].any fun kind => kind.set.contains char)

def startsName (char : Char) : Bool :=
  char == '_' || isLetter char

def continuesName (char : Char) : Bool :=
  startsName char || char == '.' || char == '[' || char == ']' || isNumber char

/-- The name of a group up to a closing angle bracket. -/
def readName (text : List Char) : Option (List Char × List Char) :=
  let name := text.takeWhile (· != '>')
  match text.drop name.length, name with
  | '>' :: rest, first :: others =>
    if startsName first && others.all continuesName then some (name, rest) else none
  | _, _ => none

def openNamed (reading : Reading) (text : List Char) : Option (Reading × List Char) := do
  let (name, rest) ← readName text
  let key := String.ofList name
  if reading.names.contains key then none
  else
    let index := reading.groups + 1
    let reading := { reading with groups := index, names := key :: reading.names }
    some (reading.openGroup (some (index, some key)) reading.flags, rest)

/-- Sets flags for the rest of a group or opens a group with flags of its own. -/
def openFlags (reading : Reading) (text : List Char) : Option (Reading × List Char) := do
  let (flags, seen, rest) ← readFlags reading.flags [] text
  match rest with
  | ')' :: rest =>
    if seen.isEmpty then none
    else some ({ reading with flags, items := .flags :: reading.items }, rest)
  | ':' :: rest => some (reading.openGroup none flags, rest)
  | _ => none

/-- What a question mark after a parenthesis says; there is no looking around. -/
def openMarked (reading : Reading) : List Char → Option (Reading × List Char)
  | '=' :: _ | '!' :: _ | '<' :: '=' :: _ | '<' :: '!' :: _ => none
  | 'P' :: '<' :: rest => reading.openNamed rest
  | '<' :: rest => reading.openNamed rest
  | rest => reading.openFlags rest

def openParenthesis (reading : Reading) (text : List Char) : Option (Reading × List Char) :=
  match skip reading.flags text with
  | '?' :: rest => reading.openMarked rest
  | rest =>
    let index := reading.groups + 1
    some (({ reading with groups := index }).openGroup (some (index, none)) reading.flags, rest)

def pushAtom (reading : Reading) : Atom → Option Reading
  | .char char isByte =>
    if reading.flags.unicode then some (reading.pushChars (foldWith reading.flags (.single char)))
    else if 128 ≤ char.toNat ∧ (isByte ∨ reading.flags.ignoreCase) then none
    else some (reading.pushChars (foldWith reading.flags (.single char)))
  | .set set =>
    if reading.flags.unicode || set.withinAscii then some (reading.pushChars set) else none
  | .look kind => some (reading.push { regex := .look kind })

def anyChar (flags : Flags) : CharSet :=
  if flags.dotAll then .complement .nothing
  else if flags.crlf then .complement (.union (.single '\n') (.single '\r'))
  else .complement (.single '\n')

def lineStart (flags : Flags) : Look :=
  if !flags.multiLine then .textStart else if flags.crlf then .crlfLineStart else .lineStart

def lineEnd (flags : Flags) : Look :=
  if !flags.multiLine then .textEnd else if flags.crlf then .crlfLineEnd else .lineEnd

def next (reading : Reading) (char : Char) (rest : List Char) : Option (Reading × List Char) :=
  match char with
  | '(' => reading.openParenthesis rest
  | ')' => reading.closeGroup.map (·, rest)
  | '|' => some (reading.startBranch, rest)
  | '[' => do
    let (set, depth, rest) ← readSet reading.flags rest
    some (reading.pushChars set depth, rest)
  | '?' => reading.repeatLast 0 (some 1) rest
  | '*' => reading.repeatLast 0 none rest
  | '+' => reading.repeatLast 1 none rest
  | '{' => reading.repeatCounted rest
  | '.' => if reading.flags.unicode then some (reading.pushChars (anyChar reading.flags), rest) else none
  | '^' => some (reading.push { regex := .look (lineStart reading.flags) }, rest)
  | '$' => some (reading.push { regex := .look (lineEnd reading.flags) }, rest)
  | '\\' => do
    let (atom, rest) ← readEscape reading.flags rest
    (pushAtom reading atom).map (·, rest)
  | _ => (pushAtom reading (.char char false)).map (·, rest)

/-- Reads to the end of the text; the fuel bounds the number of constructs. -/
def run : Nat → Reading → List Char → Option Reading
  | 0, reading, text => if (skip reading.flags text).isEmpty then some reading else none
  | fuel + 1, reading, text =>
    match skip reading.flags text with
    | [] => some reading
    | char :: rest => do
      let (reading, rest) ← reading.next char rest
      run fuel reading rest

end Reading

def read? (text : List Char) : Option Regex := do
  let reading ← Reading.run text.length {} text
  match reading.outer with
  | [] =>
    let node := reading.choice
    if node.depth ≤ greatestNesting ∧ Engine.takes node.regex then some node.regex
    else none
  | _ :: _ => none

end TextScenario.Regex
