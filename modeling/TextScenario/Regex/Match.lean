import TextScenario.Regex.Syntax
/-!
Matching. An expression turns an ordered list of places in the input into the ordered list of
places where it may stop, best choice first, no place twice. A search takes the best stop of the
first start that has any.
-/

namespace TextScenario.Regex

/-- The text that a group took, as offsets from the start of the input. -/
structure Capture where
  index : Nat
  first : Nat
  last : Nat
  deriving DecidableEq, Repr

/-- A place in the input with what was captured on the way; the newest capture comes first. -/
structure Place where
  offset : Nat
  previous : Option Char
  rest : List Char
  opened : List Nat := []
  captures : List Capture := []
  deriving Repr

def Look.holds (look : Look) (previous next : Option Char) : Bool :=
  let ascii (char : Char) := char.isAlphanum || char == '_'
  let before := previous.any Text.isWord
  let after := next.any Text.isWord
  let asciiBefore := previous.any ascii
  let asciiAfter := next.any ascii
  match look with
  | .textStart => previous.isNone
  | .textEnd => next.isNone
  | .lineStart => previous.all (· == '\n')
  | .lineEnd => next.all (· == '\n')
  | .crlfLineStart => previous.all fun char => char == '\n' || (char == '\r' && next != some '\n')
  | .crlfLineEnd => next.all fun char => char == '\r' || (char == '\n' && previous != some '\r')
  | .wordBoundary => before != after
  | .notWordBoundary => before == after
  | .wordStart => !before && after
  | .wordEnd => before && !after
  | .wordStartHalf => !before
  | .wordEndHalf => !after
  | .asciiWordBoundary => asciiBefore != asciiAfter
  | .asciiNotWordBoundary => asciiBefore == asciiAfter
  | .asciiWordStart => !asciiBefore && asciiAfter
  | .asciiWordEnd => asciiBefore && !asciiAfter
  | .asciiWordStartHalf => !asciiBefore
  | .asciiWordEndHalf => !asciiAfter

/-- Keeps the first of several places at one offset. -/
def distinctFrom (seen : List Nat) : List Place → List Place
  | [] => []
  | place :: rest =>
    if seen.contains place.offset then distinctFrom seen rest
    else place :: distinctFrom (place.offset :: seen) rest

def distinct (places : List Place) : List Place :=
  match places with
  | [] | [_] => places
  | _ => distinctFrom [] places

def Place.step? (set : CharSet) (place : Place) : Option Place :=
  match place.rest with
  | [] => none
  | char :: rest =>
    if set.contains char then
      some { place with offset := place.offset + 1, previous := some char, rest }
    else none

def Place.open (place : Place) : Place :=
  { place with opened := place.offset :: place.opened }

def Place.close (index : Nat) (place : Place) : Place :=
  match place.opened with
  | [] => place
  | first :: opened =>
    { place with opened, captures := ⟨index, first, place.offset⟩ :: place.captures }

/-- Where an unbounded repetition has begun a round, where it has ended one, and the stops found,
last one first. -/
structure Rounds where
  begun : List Nat := []
  ended : List Nat := []
  stops : List Place := []

/-- Begins a round at a place; every end of the round may begin the next one, or stop there. A
greedy repetition goes on first. -/
def Rounds.begin (body : Place → List Place) (greedy : Bool) : Nat → Rounds → Place → Rounds
  | 0, rounds, _ => rounds
  | fuel + 1, rounds, place =>
    if rounds.begun.contains place.offset then rounds
    else
      (body place).foldl
        (fun rounds reached =>
          if rounds.ended.contains reached.offset then rounds
          else
            let rounds := { rounds with ended := reached.offset :: rounds.ended }
            if greedy then
              let rounds := Rounds.begin body greedy fuel rounds reached
              { rounds with stops := reached :: rounds.stops }
            else
              let rounds := { rounds with stops := reached :: rounds.stops }
              Rounds.begin body greedy fuel rounds reached)
        { rounds with begun := place.offset :: rounds.begun }

/-- One or more rounds from each start, with no place begun twice. -/
def oneOrMore (body : Place → List Place) (greedy : Bool) (starts : List Place) : List Place :=
  let rounds := starts.foldl
    (fun rounds place => Rounds.begin body greedy (place.rest.length + 2) rounds place) {}
  distinct rounds.stops.reverse

/-- Any number of rounds from each start. -/
def zeroOrMore (body : Place → List Place) (greedy : Bool) (starts : List Place) : List Place :=
  let rounds := starts.foldl
    (fun rounds place =>
      if greedy then
        let rounds := Rounds.begin body greedy (place.rest.length + 2) rounds place
        { rounds with stops := place :: rounds.stops }
      else
        let rounds := { rounds with stops := place :: rounds.stops }
        Rounds.begin body greedy (place.rest.length + 2) rounds place)
    {}
  distinct rounds.stops.reverse

/-- The rounds left and the offset of each visit, and the stops found, last one first. -/
structure Visits where
  seen : List (Nat × Nat) := []
  stops : List Place := []

/-- At most `left` more rounds from a place. -/
def Visits.visit (body : Place → List Place) (greedy : Bool) : Nat → Visits → Place → Visits
  | left, visits, place =>
    if visits.seen.contains (left, place.offset) then visits
    else
      let visits := { visits with seen := (left, place.offset) :: visits.seen }
      let stop (visits : Visits) : Visits := { visits with stops := place :: visits.stops }
      match left with
      | 0 => stop visits
      | left + 1 =>
        let goOn (visits : Visits) : Visits :=
          (body place).foldl (fun visits reached => Visits.visit body greedy left visits reached) visits
        if greedy then stop (goOn visits) else goOn (stop visits)

def atMost (body : Place → List Place) (greedy : Bool) (left : Nat) (starts : List Place) :
    List Place :=
  let visits := starts.foldl (fun visits place => Visits.visit body greedy left visits place) {}
  distinct visits.stops.reverse

/-- Applies a step a number of times. -/
def times (step : List Place → List Place) : Nat → List Place → List Place
  | 0, places => places
  | count + 1, places => times step count (step places)

/-- Where the expression may stop from the given starts, best first. -/
def stops : Regex → List Place → List Place
  | .empty, starts => starts
  | .chars set, starts => starts.filterMap (Place.step? set)
  | .look kind, starts => starts.filter fun place => kind.holds place.previous place.rest.head?
  | .concat left right, starts => right.stops (left.stops starts)
  | .alternate left right, starts =>
    distinct (starts.flatMap fun place => left.stops [place] ++ right.stops [place])
  | .repeated inner least most greedy, starts =>
    let body (place : Place) := inner.stops [place]
    match most with
    | none =>
      match least with
      | 0 => zeroOrMore body greedy starts
      | least + 1 => oneOrMore body greedy (times inner.stops least starts)
    | some most => atMost body greedy (most - least) (times inner.stops least starts)
  | .group index _ inner, starts => (inner.stops (starts.map Place.open)).map (Place.close index)

def stopAt? (regex : Regex) (start : Place) : Option Place :=
  (regex.stops [start]).head?

/-- The best stop of the first start at or after the given place. -/
def searchFrom (regex : Regex) (offset : Nat) (previous : Option Char) : List Char → Option Place
  | [] => regex.stopAt? { offset, previous, rest := [] }
  | char :: rest =>
    match regex.stopAt? { offset, previous, rest := char :: rest } with
    | some stop => some stop
    | none => searchFrom regex (offset + 1) (some char) rest

def search? (regex : Regex) (input : List Char) : Option Place :=
  searchFrom regex 0 none input

/-- The text that a group took last, if it took part. -/
def Place.captured? (input : List Char) (index : Nat) (place : Place) : Option (List Char) :=
  (place.captures.find? (·.index == index)).map fun capture =>
    (input.drop capture.first).take (capture.last - capture.first)

end TextScenario.Regex
