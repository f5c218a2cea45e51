import TextScenario.Proofs.PatternCuts
import TextScenario.Proofs.RegexChains

/-! The expression that stands for the elements of a pattern, and searching with it: the search comes
to the end of the input by the preferred cut. -/

namespace TextScenario.Pattern

open Regex (Place CharSet Uniform chain inOrder)

def notNewline : CharSet := .complement (.single '\n')

/-- The expression for an element; `index` is the number of its group, if it has one. -/
def Element.regex (index : Nat) : Element → Regex
  | .char own => .chars (.single own)
  | .placeholder name =>
    .group index (some (String.ofList name)) (.repeated (.chars notNewline) 1 none false)
  | .gap .tilde => .repeated (.chars (.property .blank)) 0 none true
  | .gap .pipe => .repeated (.chars notNewline) 0 none false

def Element.groups : Element → Nat
  | .placeholder _ => 1
  | _ => 0

def regexes : Nat → List Element → List Regex
  | _, [] => []
  | groups, element :: elements =>
    element.regex (groups + 1) :: regexes (groups + element.groups) elements

def inSequence : List Regex → Regex
  | [] => .empty
  | first :: rest => rest.foldl .concat first

/-- The expression for all elements, which has to match the whole input. -/
def tree (elements : List Element) : Regex :=
  .concat (.concat (.look .textStart) (inSequence (regexes 0 elements))) (.look .textEnd)

def Element.take (index : Nat) (place : Place) (text : List Char) : Element → Place
  | .placeholder _ =>
    { place.after text with
      captures := ⟨index, place.offset, place.offset + text.length⟩ :: place.captures }
  | _ => place.after text

/-- The place after all elements have taken their texts. -/
def arrive : Nat → List Element → Place → List (List Char) → Place
  | groups, element :: elements, place, text :: parts =>
    arrive (groups + element.groups) elements (element.take (groups + 1) place text) parts
  | _, _, place, _ => place

def ended? (place : Place) : Option Place :=
  if place.rest.isEmpty then some place else none

theorem Element.take_rest (element : Element) (index : Nat) (place : Place) (text : List Char) :
    (element.take index place text).rest = place.rest.drop text.length := by
  cases element <;> rfl

theorem single_contains (own char : Char) : (CharSet.single own).contains char = (char == own) := by
  rw [CharSet.single, CharSet.contains, Bool.eq_iff_iff, Bool.and_eq_true, decide_eq_true_iff,
    decide_eq_true_iff, beq_iff_eq]
  exact ⟨fun ⟨below, above⟩ => Char.le_antisymm above below,
    fun same => same ▸ ⟨Char.le_refl _, Char.le_refl _⟩⟩

theorem notNewline_contains : notNewline.contains = (· != '\n') := by
  funext char
  rw [notNewline, CharSet.contains, single_contains]
  rfl

private theorem blank_contains : (CharSet.property .blank).contains = Text.isBlank := rfl

private theorem chars_stops (set : CharSet) :
    (fun place : Place => (Regex.chars set).stops [place]) = fun place => (place.step? set).toList := by
  funext place
  rw [Regex.stops, List.filterMap_cons, List.filterMap_nil]
  cases place.step? set <;> rfl

private theorem cons_chain (set : CharSet) (place : Place) :
    place :: chain set place = (place.rest.takeWhile set.contains).inits.map place.after := by
  rw [chain, Regex.inits_eq_cons (place.rest.takeWhile set.contains), List.map_cons,
    Place.after_nil, List.tail_cons]

section Search

variable {γ : Type} {input : List Char} {goal : Place → Option γ}

private theorem findSome?_filterMap {α β : Type} (step : α → Option β) (next : β → Option γ) (items : List α) :
    (items.filterMap step).findSome? next = items.findSome? fun item => (step item).bind next := by
  induction items with
  | nil => rfl
  | cons item rest ih =>
    rw [List.filterMap_cons, List.findSome?_cons]
    cases step item with
    | none => exact ih
    | some reached =>
      rw [List.findSome?_cons, ih]
      rfl

/-- What comes after an element first succeeds as it would after its choices, in their order. -/
theorem Element.regex_findSome? (uniform : Uniform input goal) (element : Element) (index : Nat)
    {starts : List Place} (inside : ∀ place ∈ starts, place.Of input) :
    ((element.regex index).stops starts).findSome? goal =
      starts.findSome? fun place =>
        ((element.choices place.rest).map fun text => element.take index place text).findSome? goal := by
  rcases element with own | name | ⟨⟨⟩⟩
  · rw [regex, Regex.stops, findSome?_filterMap]
    congr 1
    funext place
    rw [choices, Place.step?]
    cases found : place.rest with
    | nil => rfl
    | cons char rest =>
      dsimp only
      rw [single_contains]
      by_cases same : char = own
      · subst same
        simp [take, Place.after, found]
      · simp [same]
  · have closing : Uniform input (goal ∘ Place.close index) := by
      intro first second here there same
      have keeps (place : Place) (within : place.Of input) :
          (place.close index).Of input ∧ (place.close index).offset = place.offset := by
        unfold Place.close
        split <;> exact ⟨within, rfl⟩
      obtain ⟨firstOf, firstAt⟩ := keeps first here
      obtain ⟨secondOf, secondAt⟩ := keeps second there
      exact uniform _ _ firstOf secondOf (by rw [firstAt, secondAt, same])
    have opened : ∀ place ∈ starts.map Place.open, place.Of input :=
      List.forall_mem_map.mpr inside
    rw [regex, Regex.stops, Regex.stops, List.findSome?_map, chars_stops, Regex.times,
      Regex.oneOrMore_findSome? closing false opened, List.findSome?_map]
    congr 1
    funext place
    rw [Function.comp, inOrder, if_neg Bool.false_ne_true, chain, notNewline_contains,
      List.findSome?_map, List.findSome?_map]
    rfl
  · rw [regex, Regex.stops, chars_stops, Regex.zeroOrMore_findSome? uniform true inside]
    congr 1
    funext place
    rw [cons_chain, inOrder, if_pos rfl, ← List.map_reverse, blank_contains]
    rfl
  · rw [regex, Regex.stops, chars_stops, Regex.zeroOrMore_findSome? uniform false inside]
    congr 1
    funext place
    rw [cons_chain, inOrder, if_neg Bool.false_ne_true, notNewline_contains]
    rfl

private theorem uniform_choose (input : List Char) (elements : List Element)
    (arrived : Place → List (List Char) → Place) :
    Uniform input fun place => (choose elements place.rest).map (arrived place) := by
  intro first second here there same none
  rw [Option.map_eq_none_iff] at none ⊢
  rw [there, ← same, ← here]
  exact none

private theorem regexes_findSome? (elements : List Element) (groups : Nat) {starts : List Place}
    (inside : ∀ place ∈ starts, place.Of input) :
    ((regexes groups elements).foldl (fun places regex => regex.stops places) starts).findSome? ended? =
      starts.findSome? fun place => (choose elements place.rest).map (arrive groups elements place) := by
  induction elements generalizing groups starts with
  | nil =>
    rw [regexes, List.foldl_nil]
    congr 1
    funext place
    rw [choose, ended?]
    split <;> rfl
  | cons element elements ih =>
    rw [regexes, List.foldl_cons, ih _ (Regex.stops_of _ inside),
      Element.regex_findSome? (uniform_choose _ _ _) _ _ inside]
    congr 1
    funext place
    rw [choose, List.findSome?_map, List.map_findSome?]
    congr 1
    funext text
    rw [Function.comp, Function.comp, Element.take_rest, Option.map_map]
    rfl

theorem inSequence_stops (sequence : List Regex) (starts : List Place) :
    (inSequence sequence).stops starts =
      sequence.foldl (fun places regex => regex.stops places) starts := by
  cases sequence with
  | nil => rfl
  | cons first rest =>
    rw [inSequence, List.foldl_cons]
    induction rest generalizing first with
    | nil => rfl
    | cons second rest ih =>
      rw [List.foldl_cons, ih, List.foldl_cons]
      rfl

end Search

def anchored (body : Regex) : Regex :=
  .concat (.concat (.look .textStart) body) (.look .textEnd)

private theorem anchored_stops_later (body : Regex) (offset : Nat) (previous : Char) (rest : List Char) :
    (anchored body).stops [{ offset, previous := some previous, rest }] = [] := by
  have outside : (Regex.look .textStart).stops [{ offset, previous := some previous, rest }] = [] := rfl
  rw [anchored, Regex.stops_concat, Regex.stops_concat, outside, Regex.stops_nil, Regex.stops_nil]

private theorem anchored_searchFrom_later (body : Regex) (offset : Nat) (previous : Char) (rest : List Char) :
    (anchored body).searchFrom offset (some previous) rest = none := by
  induction rest generalizing offset previous with
  | nil => rw [Regex.searchFrom, Regex.stopAt?, anchored_stops_later, List.head?_nil]
  | cons char rest ih =>
    rw [Regex.searchFrom, Regex.stopAt?, anchored_stops_later, List.head?_nil]
    exact ih _ _

/-- Searching with it only looks at the start. -/
theorem anchored_search? (body : Regex) (input : List Char) :
    (anchored body).search? input =
      (anchored body).stopAt? { offset := 0, previous := none, rest := input } := by
  rw [Regex.search?]
  cases input with
  | nil => rw [Regex.searchFrom]
  | cons char rest =>
    rw [Regex.searchFrom, anchored_searchFrom_later]
    split
    next found => exact found.symm
    next none => exact none.symm

/-- Searching arrives at the end of the input by the cut that is chosen from left to right. -/
theorem tree_search? (elements : List Element) (input : List Char) :
    (tree elements).search? input =
      (choose elements input).map (arrive 0 elements { offset := 0, previous := none, rest := input }) := by
  have last : (fun place : Place => Regex.Look.textEnd.holds place.previous place.rest.head?) =
      fun place => place.rest.isEmpty := by
    funext place
    cases place.rest <;> rfl
  have atStart : (Regex.look .textStart).stops [{ offset := 0, previous := none, rest := input }] =
      [{ offset := 0, previous := none, rest := input }] := rfl
  have inside : ∀ place ∈ [({ offset := 0, previous := none, rest := input } : Place)],
      place.Of input := by
    intro place member
    cases List.mem_singleton.mp member
    rfl
  have found := regexes_findSome? elements 0 inside
  have whole : tree elements = anchored (inSequence (regexes 0 elements)) := rfl
  rw [whole, anchored_search?, Regex.stopAt?, anchored, Regex.stops_concat, Regex.stops_concat, atStart,
    inSequence_stops, Regex.stops, List.head?_filter, last, List.find?_eq_findSome?_guard]
  rw [List.findSome?_singleton] at found
  exact found

end TextScenario.Pattern
