import TextScenario.Regex.Syntax
/-!
Roughly how large the automaton of an expression is. A set of characters is taken apart into ranges of
code points, and these into ranges of bytes, which the automaton reads from the first byte on.
-/

namespace TextScenario.Regex

def greatestCode : Nat := 0x10FFFF

/-- Puts a range among ascending ones, joined with those that it touches. -/
def addRange (first last : Nat) : List (Nat × Nat) → List (Nat × Nat)
  | [] => [(first, last)]
  | (start, stop) :: rest =>
    if last + 1 < start then (first, last) :: (start, stop) :: rest
    else if stop + 1 < first then (start, stop) :: addRange first last rest
    else addRange (min first start) (max last stop) rest

def uniteRanges (left right : List (Nat × Nat)) : List (Nat × Nat) :=
  left.foldr (fun (first, last) ranges => addRange first last ranges) right

/-- What ascending ranges leave out, from a code point on. -/
def rangeGaps (start : Nat) : List (Nat × Nat) → List (Nat × Nat)
  | [] => if start ≤ greatestCode then [(start, greatestCode)] else []
  | (first, last) :: rest =>
    if start < first then (start, first - 1) :: rangeGaps (last + 1) rest else rangeGaps (last + 1) rest

def commonRanges (left right : List (Nat × Nat)) : List (Nat × Nat) :=
  rangeGaps 0 (uniteRanges (rangeGaps 0 left) (rangeGaps 0 right))

def codeRanges (set : Text.RangeSet) : List (Nat × Nat) :=
  set.ranges.toList

def Property.ranges : Property → List (Nat × Nat)
  | .any => [(0, greatestCode)]
  | .ascii => [(0, 0x7F)]
  | .assigned => Text.Category.all.foldr (fun kind ranges => uniteRanges (codeRanges kind.set) ranges) []
  | .blank =>
    [Text.Category.spaceSeparator, .lineSeparator, .paragraphSeparator].foldr
      (fun kind ranges => uniteRanges (codeRanges kind.set) ranges) [(0x09, 0x0D), (0x85, 0x85)]
  | .decimalDigit => codeRanges Text.Category.decimalNumberSet
  | .word => codeRanges Text.wordSet
  | .category kind => codeRanges kind.set
  | .listed set => codeRanges set

/-- The characters that differ in case only from a member of a set. -/
def foldedRanges (set : CharSet) : List (Nat × Nat) :=
  let cased := Text.foldMap.entries.toList.map Prod.fst
  let folded := cased.filter fun code => (CharSet.folded set).contains (Char.ofNat code)
  folded.foldr (fun code ranges => addRange code code ranges) []

def foldedAsciiRanges (set : CharSet) : List (Nat × Nat) :=
  let folded := (List.range 0x80).filter fun code => (CharSet.foldedAscii set).contains (Char.ofNat code)
  folded.foldr (fun code ranges => addRange code code ranges) []

/-- The members of a set as ascending ranges with gaps between them. -/
def CharSet.ranges : CharSet → List (Nat × Nat)
  | .nothing => []
  | .range first last => if first ≤ last then [(first.toNat, last.toNat)] else []
  | .property named => named.ranges
  | .union left right => uniteRanges left.ranges right.ranges
  | .intersection left right => commonRanges left.ranges right.ranges
  | .difference left right => commonRanges left.ranges (rangeGaps 0 right.ranges)
  | .symmetricDifference left right =>
    uniteRanges (commonRanges left.ranges (rangeGaps 0 right.ranges))
      (commonRanges right.ranges (rangeGaps 0 left.ranges))
  | .complement inner => rangeGaps 0 inner.ranges
  | .folded inner => uniteRanges (foldedRanges inner) inner.ranges
  | .foldedAscii inner => uniteRanges (foldedAsciiRanges inner) inner.ranges

/-- Codes with a first byte and a number of bytes after it, as sequences of ranges of six bits each. -/
def bitRanges : Nat → Nat → Nat → List (List (Nat × Nat))
  | 0, first, last => [[(first, last)]]
  | more + 1, first, last =>
    let block := 64 ^ (more + 1)
    let lead := first / block
    let final := last / block
    if lead = final then (bitRanges more (first % block) (last % block)).map ((lead, lead) :: ·)
    else
      let before := if first % block = 0 then []
        else (bitRanges more (first % block) (block - 1)).map ((lead, lead) :: ·)
      let after := if last % block = block - 1 then []
        else (bitRanges more 0 (last % block)).map ((final, final) :: ·)
      let lead := if first % block = 0 then lead else lead + 1
      let final := if last % block = block - 1 then final else final - 1
      let between := if final < lead then [] else [(lead, final) :: List.replicate (more + 1) (0, 63)]
      before ++ between ++ after

/-- The sequences of bytes for a range of code points; surrogates have none. -/
def byteRanges (first last : Nat) : List (List (Nat × Nat)) :=
  [(0, 0x7F, 0), (0x80, 0x7FF, 1), (0x800, 0xD7FF, 2), (0xE000, 0xFFFF, 2), (0x10000, greatestCode, 3)].flatMap
    fun (least, most, more) =>
      if max first least ≤ min last most then bitRanges more (max first least) (min last most) else []

/-- How many of two sequences' ranges are the same from the start on. -/
def sharedPrefix : List (Nat × Nat) → List (Nat × Nat) → Nat
  | first :: rest, other :: others => if first = other then sharedPrefix rest others + 1 else 0
  | _, _ => 0

/-- How many beginnings ascending sequences have; those of one length may have them in common. -/
def countPrefixes (before : List (Nat × Nat)) : List (List (Nat × Nat)) → Nat
  | [] => 0
  | sequence :: rest =>
    let shared := if before.length = sequence.length then sharedPrefix before sequence else 0
    sequence.length - shared + countPrefixes sequence rest

/-- The bytes of an automaton for one character of the set. -/
def CharSet.weight (set : CharSet) : Nat :=
  match set.ranges with
  | [] => 32
  | (first, last) :: rest =>
    let ranges := (first, last) :: rest
    let sequences := ranges.flatMap fun (first, last) => byteRanges first last
    if first = last ∧ rest.isEmpty then 32 * countPrefixes [] sequences
    else if ranges.all fun (_, last) => last < 0x80 then 64 + 8 * ranges.length
    else 64 + 4 * sequences.length + 32 * countPrefixes [] sequences

/-- The bytes of an automaton for the expression, with repetitions written out. -/
def weight : Regex → Nat
  | .empty | .look _ => 32
  | .chars set => set.weight
  | .concat left right => left.weight + right.weight
  | .alternate left right => left.weight + right.weight + 40
  | .repeated inner least most _ =>
    match most with
    | none => max least 1 * inner.weight + 40
    | some most => most * inner.weight + (most - least) * 40
  | .group _ _ inner => inner.weight + 64

def greatestWeight : Nat := 10 * 1024 * 1024

theorem weight_shape (regex : Regex) : regex.shape.weight = regex.weight := by
  induction regex with
  | empty | chars | look => rfl
  | concat left right first second | alternate left right first second =>
    rw [shape, weight, weight, first, second]
  | repeated inner least most greedy ih =>
    rw [shape]
    cases most <;> simp only [weight, ih]
  | group index name inner ih => rw [shape, weight, weight, ih]

end TextScenario.Regex
