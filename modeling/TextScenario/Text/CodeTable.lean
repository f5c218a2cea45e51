/-!
Sets of code points and maps between code points, read from compact text. A set is an
ascending list of ranges; a map is an ascending list of single entries.
-/

namespace TextScenario.Text

/-- Inclusive ranges of code points, ascending and disjoint. -/
structure RangeSet where
  ranges : Array (Nat × Nat)
  deriving DecidableEq, Repr, Inhabited

/-- One target for each listed code point, ascending. -/
structure CodeMap where
  entries : Array (Nat × Nat)
  deriving Inhabited

def hexDigit? (char : Char) : Option Nat :=
  if '0' ≤ char ∧ char ≤ '9' then some (char.toNat - '0'.toNat)
  else if 'a' ≤ char ∧ char ≤ 'f' then some (char.toNat - 'a'.toNat + 10)
  else if 'A' ≤ char ∧ char ≤ 'F' then some (char.toNat - 'A'.toNat + 10)
  else none

/-- The value of a run of hexadecimal digits; other characters count as zero. -/
def hexValue (digits : List Char) : Nat :=
  digits.foldl (fun value char => value * 16 + (hexDigit? char).getD 0) 0

def splitWhere (test : Char → Bool) : List Char → List (List Char)
  | [] => [[]]
  | char :: rest =>
    if test char then [] :: splitWhere test rest
    else match splitWhere test rest with
      | [] => [[char]]
      | piece :: pieces => (char :: piece) :: pieces

/-- The text before a separator, and the text after it if there is one. -/
def splitPair (separator : Char) (text : List Char) : List Char × Option (List Char) :=
  let before := text.takeWhile (· != separator)
  match text.drop before.length with
  | [] => (before, none)
  | _ :: after => (before, some after)

def wordsOf (lines : List String) : Array (List Char) :=
  (lines.flatMap fun line => (splitWhere (· == ' ') line.toList).filter (!·.isEmpty)).toArray

/-- Reads words such as `41-5A` and `AA`, separated by spaces. -/
def RangeSet.ofLines (lines : List String) : RangeSet where
  ranges := (wordsOf lines).map fun word =>
    match splitPair '-' word with
    | (first, none) => (hexValue first, hexValue first)
    | (first, some last) => (hexValue first, hexValue last)

/-- Reads words such as `41-5A:61` and `100-12E/2:101`: the sources run from the first to the
last code point in the given steps, and the targets run along with them. -/
def CodeMap.ofLines (lines : List String) : CodeMap where
  entries := (wordsOf lines).flatMap fun word =>
    let (sources, target) := splitPair ':' word
    let target := hexValue (target.getD [])
    match splitPair '-' sources with
    | (only, none) => #[(hexValue only, target)]
    | (first, some last) =>
      let first := hexValue first
      let (last, step) := splitPair '/' last
      let step := (step.map hexValue).getD 1
      let count := (hexValue last - first) / step + 1
      (Array.range count).map fun index => (first + index * step, target + index * step)

/-- The index of the last pair among `low … high - 1` whose first component is at most `code`,
or `low` if there is none. -/
def lastAtMost (pairs : Array (Nat × Nat)) (code low high : Nat) : Nat :=
  if high ≤ low + 1 then low
  else
    let middle := (low + high) / 2
    if code < (pairs[middle]?.getD (0, 0)).1 then lastAtMost pairs code low middle
    else lastAtMost pairs code middle high
termination_by high - low

def RangeSet.contains (set : RangeSet) (char : Char) : Bool :=
  let code := char.toNat
  match set.ranges[lastAtMost set.ranges code 0 set.ranges.size]? with
  | some (first, last) => first ≤ code && code ≤ last
  | none => false

def CodeMap.get? (map : CodeMap) (char : Char) : Option Char :=
  let code := char.toNat
  match map.entries[lastAtMost map.entries code 0 map.entries.size]? with
  | some (source, target) => if source = code then some (Char.ofNat target) else none
  | none => none

end TextScenario.Text
