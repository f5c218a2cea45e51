import TextScenario.Regex.CharSet
/-!
Regular expressions as trees.
-/

namespace TextScenario

/-- Conditions on a place between two characters. -/
inductive Regex.Look where
  | textStart
  | textEnd
  | lineStart
  | lineEnd
  | crlfLineStart
  | crlfLineEnd
  | wordBoundary
  | notWordBoundary
  | wordStart
  | wordEnd
  | wordStartHalf
  | wordEndHalf
  | asciiWordBoundary
  | asciiNotWordBoundary
  | asciiWordStart
  | asciiWordEnd
  | asciiWordStartHalf
  | asciiWordEndHalf
  deriving DecidableEq, Repr

inductive Regex where
  | empty
  | chars (set : Regex.CharSet)
  | look (look : Regex.Look)
  | concat (left right : Regex)
  | alternate (left right : Regex)
  | repeated (inner : Regex) (least : Nat) (most : Option Nat) (greedy : Bool)
  | group (index : Nat) (name : Option String) (inner : Regex)
  deriving Repr

namespace Regex

def groupNames : Regex → List String
  | .empty | .chars _ | .look _ => []
  | .concat left right | .alternate left right => left.groupNames ++ right.groupNames
  | .repeated inner _ _ _ => inner.groupNames
  | .group _ name inner => name.toList ++ inner.groupNames

def groupIndex? (name : String) : Regex → Option Nat
  | .empty | .chars _ | .look _ => none
  | .concat left right | .alternate left right =>
    (left.groupIndex? name).orElse fun _ => right.groupIndex? name
  | .repeated inner _ _ _ => inner.groupIndex? name
  | .group index own inner => if own = some name then some index else inner.groupIndex? name

/-- An expression without the numbers of its groups. -/
def shape : Regex → Regex
  | .empty => .empty
  | .chars set => .chars set
  | .look kind => .look kind
  | .concat left right => .concat left.shape right.shape
  | .alternate left right => .alternate left.shape right.shape
  | .repeated inner least most greedy => .repeated inner.shape least most greedy
  | .group _ name inner => .group 0 name inner.shape

/-- A repetition; repeating at most zero times leaves nothing, groups included. -/
def repeating (inner : Regex) (least : Nat) (most : Option Nat) (greedy : Bool) : Regex :=
  if most = some 0 then .empty else .repeated inner least most greedy

end Regex

end TextScenario
