import TextScenario.Text.Blank
import TextScenario.Text.Case
import TextScenario.Text.Emoji
import TextScenario.Text.Listed
import TextScenario.Text.Script
import TextScenario.Text.Word
/-!
Sets of characters as they are written in expressions, and membership in them.
-/

namespace TextScenario.Regex

inductive Property where
  | any
  | ascii
  | assigned
  | blank
  | decimalDigit
  | word
  | category (category : Text.Category)
  | listed (set : Text.RangeSet)
  deriving DecidableEq, Repr

def Property.contains : Property → Char → Bool
  | .any, _ => true
  | .ascii, char => char.toNat < 128
  | .assigned, char => Text.Category.all.any fun category => category.set.contains char
  | .blank, char => Text.isBlank char
  | .decimalDigit, char => Text.isDecimalDigit char
  | .word, char => Text.isWord char
  | .category kind, char => kind.set.contains char
  | .listed set, char => set.contains char

inductive CharSet where
  | nothing
  | range (first last : Char)
  | property (property : Property)
  | union (left right : CharSet)
  | intersection (left right : CharSet)
  | difference (left right : CharSet)
  | symmetricDifference (left right : CharSet)
  | complement (inner : CharSet)
  | folded (inner : CharSet)
  | foldedAscii (inner : CharSet)
  deriving Repr

namespace CharSet

def single (char : Char) : CharSet := .range char char

/-- A folded set also holds every character that differs from a member in case only. -/
def contains : CharSet → Char → Bool
  | .nothing, _ => false
  | .range first last, char => first ≤ char && char ≤ last
  | .property named, char => named.contains char
  | .union left right, char => left.contains char || right.contains char
  | .intersection left right, char => left.contains char && right.contains char
  | .difference left right, char => left.contains char && !right.contains char
  | .symmetricDifference left right, char => left.contains char != right.contains char
  | .complement inner, char => !inner.contains char
  | .folded inner, char => (Text.foldOrbit char).any fun other => inner.contains other
  | .foldedAscii inner, char =>
    inner.contains char || (char.toNat < 128 && (inner.contains char.toLower || inner.contains char.toUpper))

/-- Whether the set is plainly within ASCII, as sets of bytes must be. -/
def withinAscii : CharSet → Bool
  | .nothing => true
  | .range _ last => last.toNat < 128
  | .property named => named == .ascii
  | .union left right | .symmetricDifference left right => left.withinAscii && right.withinAscii
  | .intersection left right => left.withinAscii || right.withinAscii
  | .difference left _ => left.withinAscii
  | .complement _ => false
  | .folded inner | .foldedAscii inner => inner.withinAscii

def ofRanges (ranges : List (Char × Char)) : CharSet :=
  ranges.foldr (fun (first, last) set => .union (.range first last) set) .nothing

end CharSet

/-- The members of a bracketed name such as `alpha`. -/
def asciiClass? (name : String) : Option CharSet :=
  let between (ranges : List (Char × Char)) := some (CharSet.ofRanges ranges)
  match name with
  | "alnum" => between [('0', '9'), ('A', 'Z'), ('a', 'z')]
  | "alpha" => between [('A', 'Z'), ('a', 'z')]
  | "ascii" => between [('\x00', '\x7f')]
  | "blank" => between [('\t', '\t'), (' ', ' ')]
  | "cntrl" => between [('\x00', '\x1f'), ('\x7f', '\x7f')]
  | "digit" => between [('0', '9')]
  | "graph" => between [('!', '~')]
  | "lower" => between [('a', 'z')]
  | "print" => between [(' ', '~')]
  | "punct" => between [('!', '/'), (':', '@'), ('[', '\x60'), ('\x7b', '~')]
  | "space" => between [('\t', '\r'), (' ', ' ')]
  | "upper" => between [('A', 'Z')]
  | "word" => between [('0', '9'), ('A', 'Z'), ('_', '_'), ('a', 'z')]
  | "xdigit" => between [('0', '9'), ('A', 'F'), ('a', 'f')]
  | _ => none

private def categoryNames : List (String × List Text.Category) :=
  [("lu", [.uppercaseLetter]), ("uppercaseletter", [.uppercaseLetter]),
    ("ll", [.lowercaseLetter]), ("lowercaseletter", [.lowercaseLetter]),
    ("lt", [.titlecaseLetter]), ("titlecaseletter", [.titlecaseLetter]),
    ("lc", [.uppercaseLetter, .lowercaseLetter, .titlecaseLetter]),
    ("casedletter", [.uppercaseLetter, .lowercaseLetter, .titlecaseLetter]),
    ("lm", [.modifierLetter]), ("modifierletter", [.modifierLetter]),
    ("lo", [.otherLetter]), ("otherletter", [.otherLetter]),
    ("l", [.uppercaseLetter, .lowercaseLetter, .titlecaseLetter, .modifierLetter, .otherLetter]),
    ("letter",
      [.uppercaseLetter, .lowercaseLetter, .titlecaseLetter, .modifierLetter, .otherLetter]),
    ("mn", [.nonspacingMark]), ("nonspacingmark", [.nonspacingMark]),
    ("mc", [.spacingMark]), ("spacingmark", [.spacingMark]),
    ("me", [.enclosingMark]), ("enclosingmark", [.enclosingMark]),
    ("m", [.nonspacingMark, .spacingMark, .enclosingMark]),
    ("mark", [.nonspacingMark, .spacingMark, .enclosingMark]),
    ("combiningmark", [.nonspacingMark, .spacingMark, .enclosingMark]),
    ("nd", [.decimalNumber]), ("decimalnumber", [.decimalNumber]), ("digit", [.decimalNumber]),
    ("nl", [.letterNumber]), ("letternumber", [.letterNumber]),
    ("no", [.otherNumber]), ("othernumber", [.otherNumber]),
    ("n", [.decimalNumber, .letterNumber, .otherNumber]),
    ("number", [.decimalNumber, .letterNumber, .otherNumber]),
    ("pc", [.connectorPunctuation]), ("connectorpunctuation", [.connectorPunctuation]),
    ("pd", [.dashPunctuation]), ("dashpunctuation", [.dashPunctuation]),
    ("ps", [.openPunctuation]), ("openpunctuation", [.openPunctuation]),
    ("pe", [.closePunctuation]), ("closepunctuation", [.closePunctuation]),
    ("pi", [.initialPunctuation]), ("initialpunctuation", [.initialPunctuation]),
    ("pf", [.finalPunctuation]), ("finalpunctuation", [.finalPunctuation]),
    ("po", [.otherPunctuation]), ("otherpunctuation", [.otherPunctuation]),
    ("p", [.connectorPunctuation, .dashPunctuation, .openPunctuation, .closePunctuation,
      .initialPunctuation, .finalPunctuation, .otherPunctuation]),
    ("punctuation", [.connectorPunctuation, .dashPunctuation, .openPunctuation,
      .closePunctuation, .initialPunctuation, .finalPunctuation, .otherPunctuation]),
    ("punct", [.connectorPunctuation, .dashPunctuation, .openPunctuation,
      .closePunctuation, .initialPunctuation, .finalPunctuation, .otherPunctuation]),
    ("sm", [.mathSymbol]), ("mathsymbol", [.mathSymbol]),
    ("currencysymbol", [.currencySymbol]),
    ("sk", [.modifierSymbol]), ("modifiersymbol", [.modifierSymbol]),
    ("so", [.otherSymbol]), ("othersymbol", [.otherSymbol]),
    ("s", [.mathSymbol, .currencySymbol, .modifierSymbol, .otherSymbol]),
    ("symbol", [.mathSymbol, .currencySymbol, .modifierSymbol, .otherSymbol]),
    ("zs", [.spaceSeparator]), ("spaceseparator", [.spaceSeparator]),
    ("zl", [.lineSeparator]), ("lineseparator", [.lineSeparator]),
    ("zp", [.paragraphSeparator]), ("paragraphseparator", [.paragraphSeparator]),
    ("z", [.spaceSeparator, .lineSeparator, .paragraphSeparator]),
    ("separator", [.spaceSeparator, .lineSeparator, .paragraphSeparator]),
    ("cc", [.control]), ("control", [.control]), ("cntrl", [.control]),
    ("cf", [.format]), ("format", [.format]),
    ("co", [.privateUse]), ("privateuse", [.privateUse]),
    ("sc", [.currencySymbol])]

private def ofCategories (categories : List Text.Category) : CharSet :=
  categories.foldr (fun category set => .union (.property (.category category)) set) .nothing

private def scriptSet? (name : String) : Option CharSet :=
  (Text.Script.named? name).map fun script => .property (.listed script.set)

private def categorySet? (name : String) : Option CharSet :=
  match name with
  | "any" => some (.property .any)
  | "assigned" => some (.property .assigned)
  | "ascii" => some (.property .ascii)
  | "cn" | "unassigned" => some (.complement (.property .assigned))
  | "c" | "other" =>
    some (.union (.complement (.property .assigned)) (ofCategories [.control, .format, .privateUse]))
  | _ => (categoryNames.lookup name).map ofCategories

/-- Names are compared without case, blanks, hyphens, underscores and a leading `is`. -/
def normalName (name : List Char) : String :=
  let keep (text : List Char) : List Char :=
    (text.map Char.toLower).filter fun char =>
      char != ' ' && char != '_' && char != '-' && char.toNat < 128
  match name.map Char.toLower with
  | 'i' :: 's' :: rest =>
    let kept := keep rest
    if kept = ['c'] then "isc" else String.ofList kept
  | _ => String.ofList (keep name)

private def listedSet? (name : String) : Option Text.RangeSet :=
  match name with
  | "alphabetic" | "alpha" => some Text.alphabeticSet
  | "uppercase" | "upper" => some Text.uppercaseSet
  | "lowercase" | "lower" => some Text.lowercaseSet
  | "cased" => some Text.casedSet
  | "caseignorable" | "ci" => some Text.caseIgnorableSet
  | "emoji" => some Text.emojiSet
  | "emojipresentation" | "epres" => some Text.emojiPresentationSet
  | "emojimodifier" | "emod" => some Text.emojiModifierSet
  | "emojimodifierbase" | "ebase" => some Text.emojiModifierBaseSet
  | "emojicomponent" | "ecomp" => some Text.emojiComponentSet
  | "extendedpictographic" | "extpict" => some Text.pictographicSet
  | "math" => some Text.mathSet
  | "dash" => some Text.dashSet
  | "diacritic" | "dia" => some Text.diacriticSet
  | "extender" | "ext" => some Text.extenderSet
  | "quotationmark" | "qmark" => some Text.quotationMarkSet
  | "sentenceterminal" | "sterm" => some Text.sentenceTerminalSet
  | "terminalpunctuation" | "term" => some Text.terminalPunctuationSet
  | "softdotted" | "sd" => some Text.softDottedSet
  | "ideographic" | "ideo" => some Text.ideographicSet
  | "unifiedideograph" | "uideo" => some Text.unifiedIdeographSet
  | "radical" => some Text.radicalSet
  | "idsbinaryoperator" | "idsb" => some Text.binaryOperatorSet
  | "idstrinaryoperator" | "idst" => some Text.trinaryOperatorSet
  | "hexdigit" | "hex" => some Text.hexDigitSet
  | "bidicontrol" | "bidic" => some Text.bidiControlSet
  | "bidimirrored" | "bidim" => some Text.bidiMirroredSet
  | "joincontrol" | "joinc" => some Text.joinControlSet
  | "logicalorderexception" | "loe" => some Text.logicalOrderSet
  | "regionalindicator" | "ri" => some Text.regionalIndicatorSet
  | "variationselector" | "vs" => some Text.variationSelectorSet
  | "defaultignorablecodepoint" | "di" => some Text.ignorableSet
  | "noncharactercodepoint" | "nchar" => some Text.noncharacterSet
  | "deprecated" | "dep" => some Text.deprecatedSet
  | "patternsyntax" | "patsyn" => some Text.patternSyntaxSet
  | "patternwhitespace" | "patws" => some Text.patternBlankSet
  | _ => none

private def graphemeExtend : CharSet :=
  .union (ofCategories [.nonspacingMark, .enclosingMark]) (.property (.listed Text.otherExtendSet))

/-- What is neither unassigned nor a control, a separator of lines or an extension. -/
private def graphemeBase : CharSet :=
  .difference (.property .assigned)
    (.union (ofCategories [.control, .format, .privateUse, .lineSeparator, .paragraphSeparator]) graphemeExtend)

private def identifierStart : CharSet :=
  .difference
    (.union
      (ofCategories [.uppercaseLetter, .lowercaseLetter, .titlecaseLetter, .modifierLetter, .otherLetter,
        .letterNumber])
      (.property (.listed Text.otherStartSet)))
    (.property (.listed Text.patternSyntaxSet))

private def identifierContinue : CharSet :=
  .union identifierStart
    (.union (ofCategories [.nonspacingMark, .spacingMark, .decimalNumber, .connectorPunctuation])
      (.property (.listed Text.otherContinueSet)))

/-- Properties that are made up of categories. -/
private def derivedSet? (name : String) : Option CharSet :=
  match name with
  | "asciihexdigit" | "ahex" => some (CharSet.ofRanges [('0', '9'), ('A', 'F'), ('a', 'f')])
  | "graphemeextend" | "grext" => some graphemeExtend
  | "graphemebase" | "grbase" => some graphemeBase
  | "idstart" | "ids" => some identifierStart
  | "idcontinue" | "idc" => some identifierContinue
  | "xidstart" | "xids" => some (.difference identifierStart (.property (.listed Text.unstableStartSet)))
  | "xidcontinue" | "xidc" =>
    some (.difference identifierContinue (.property (.listed Text.unstableContinueSet)))
  | _ => none

def namedSet? (name : List Char) : Option CharSet :=
  match normalName name with
  | "whitespace" | "wspace" | "space" => some (.property .blank)
  | normal =>
    match listedSet? normal with
    | some set => some (.property (.listed set))
    | none =>
      ((derivedSet? normal).orElse fun _ => categorySet? normal).orElse fun _ => scriptSet? normal

def valuedSet? (name value : List Char) : Option CharSet :=
  match normalName name with
  | "generalcategory" | "gc" => categorySet? (normalName value)
  | "script" | "sc" => scriptSet? (normalName value)
  | _ => none

end TextScenario.Regex
