import TextScenario.Pattern
import Mathlib.Data.List.Forall2
import Mathlib.Data.List.Infix

/-! What a pattern accepts, said without expressions: an input is cut into a text for each element of
the pattern. Of several cuts one is preferred, and it can be chosen from left to right. -/

namespace TextScenario.Pattern

inductive Element where
  | char (char : Char)
  | placeholder (name : List Char)
  | gap (delimiter : Delimiter)
  deriving DecidableEq, Repr

def Element.ofPiece : Text.Piece → Element
  | .char own => .char own
  | .placeholder name => .placeholder name

/-- The elements of segments, with a gap between any two of them. -/
def elementsOf (delimiter : Delimiter) : List (List Char) → List Element
  | [] => []
  | [only] => (Text.pieces nameRule only).map .ofPiece
  | first :: rest =>
    (Text.pieces nameRule first).map .ofPiece ++ .gap delimiter :: elementsOf delimiter rest

def elements (pattern : String) (delimiter : Delimiter) : List Element :=
  elementsOf delimiter (segments pattern.toList delimiter)

def Element.Takes : Element → List Char → Prop
  | .char own, text => text = [own]
  | .placeholder _, text => text ≠ [] ∧ '\n' ∉ text
  | .gap .tilde, text => ∀ char ∈ text, Text.isBlank char = true
  | .gap .pipe, text => '\n' ∉ text

structure Cut (elements : List Element) (input : List Char) (parts : List (List Char)) : Prop where
  takes : List.Forall₂ Element.Takes elements parts
  whole : parts.flatten = input

/-- A gap of blanks would rather be long, everything else short. -/
def Element.Prefers : Element → List Char → List Char → Prop
  | .gap .tilde, taken, other => other.length ≤ taken.length
  | _, taken, other => taken.length ≤ other.length

/-- The cut in which each element, from left to right, takes the text it prefers among those that let
the other elements have the rest. -/
inductive Preferred : List Element → List Char → List (List Char) → Prop
  | nil : Preferred [] [] []
  | cons {element : Element} {elements : List Element} {taken rest : List Char}
      {parts : List (List Char)} (takes : element.Takes taken) (later : Preferred elements rest parts)
      (best : ∀ other left, other ++ left = taken ++ rest → element.Takes other →
        (∃ cut, Cut elements left cut) → element.Prefers taken other) :
    Preferred (element :: elements) (taken ++ rest) (taken :: parts)

theorem Preferred.cut {elements : List Element} {input : List Char} {parts : List (List Char)}
    (preferred : Preferred elements input parts) : Cut elements input parts := by
  induction preferred with
  | nil => exact ⟨.nil, rfl⟩
  | cons takes later best ih => exact ⟨.cons takes ih.takes, by simp [ih.whole]⟩

private theorem Element.Prefers.antisymm {element : Element} {left right : List Char}
    (first : element.Prefers left right) (second : element.Prefers right left) :
    left.length = right.length := by
  rcases element with own | name | ⟨⟨⟩⟩ <;> exact Nat.le_antisymm ‹_› ‹_›

/-- There is at most one preferred cut. -/
theorem Preferred.unique {elements : List Element} {input : List Char} {first second : List (List Char)}
    (left : Preferred elements input first) (right : Preferred elements input second) :
    first = second := by
  induction left generalizing second with
  | nil =>
    cases right
    rfl
  | @cons element elements taken rest parts takes later best ih =>
    generalize same : taken ++ rest = input at right
    cases right with
    | @cons _ _ other left others takes' later' best' =>
      have longer := best other left same.symm takes' ⟨_, later'.cut⟩
      have shorter := best' taken rest same takes ⟨_, later.cut⟩
      obtain ⟨rfl, rfl⟩ := List.append_inj same (longer.antisymm shorter)
      rw [ih later']

/-- The texts an element may take from the start of an input, the preferred ones first. -/
def Element.choices : Element → List Char → List (List Char)
  | .char own, input => if input.head? = some own then [[own]] else []
  | .placeholder _, input => (input.takeWhile (· != '\n')).inits.tail
  | .gap .tilde, input => (input.takeWhile Text.isBlank).inits.reverse
  | .gap .pipe, input => (input.takeWhile (· != '\n')).inits

/-- Chooses the first text that lets the other elements have the rest. -/
def choose : List Element → List Char → Option (List (List Char))
  | [], input => if input.isEmpty then some [] else none
  | element :: elements, input =>
    (element.choices input).findSome? fun taken =>
      (choose elements (input.drop taken.length)).map (taken :: ·)

private theorem mem_inits_takeWhile {accepts : Char → Bool} {text input : List Char} :
    text ∈ (input.takeWhile accepts).inits ↔ text <+: input ∧ ∀ char ∈ text, accepts char = true := by
  rw [List.mem_inits]
  constructor
  · intro inside
    exact ⟨inside.trans (List.takeWhile_prefix _), fun char member =>
      List.all_eq_true.mp List.all_takeWhile char (inside.subset member)⟩
  · rintro ⟨⟨rest, rfl⟩, accepted⟩
    rw [List.takeWhile_append_of_pos accepted]
    exact List.prefix_append _ _

private theorem inits_sorted (text : List Char) :
    text.inits.Pairwise fun first second => first.length ≤ second.length := by
  induction text with
  | nil => simp
  | cons char rest ih =>
    rw [List.inits_cons, List.pairwise_cons, List.pairwise_map]
    exact ⟨by simp, ih.imp (by simp)⟩

private theorem mem_tail_inits {text input : List Char} :
    text ∈ input.inits.tail ↔ text ∈ input.inits ∧ text ≠ [] := by
  cases input with
  | nil => simp
  | cons char rest =>
    simp only [List.inits_cons, List.tail_cons, List.mem_cons, List.mem_map]
    constructor
    · rintro ⟨left, member, rfl⟩
      exact ⟨.inr ⟨left, member, rfl⟩, by simp⟩
    · rintro ⟨rfl | found, nonempty⟩
      · contradiction
      · exact found

private theorem Element.mem_choices {element : Element} {input text : List Char} :
    text ∈ element.choices input ↔ text <+: input ∧ element.Takes text := by
  have lineOnly : (∀ char ∈ text, (char != '\n') = true) ↔ '\n' ∉ text := by
    simp only [bne_iff_ne]
    exact ⟨fun all member => all _ member rfl, fun absent char member same => absent (same ▸ member)⟩
  rcases element with own | name | ⟨⟨⟩⟩
  · rw [choices, Takes]
    constructor
    · intro member
      split at member
      next found =>
        obtain ⟨rest, rfl⟩ := List.head?_eq_some_iff.mp found
        rw [List.mem_singleton] at member
        exact ⟨by simp [member], member⟩
      next => cases member
    · rintro ⟨⟨rest, rfl⟩, rfl⟩
      simp
  · rw [choices, Takes, mem_tail_inits, mem_inits_takeWhile, lineOnly]
    exact ⟨fun ⟨⟨inside, oneLine⟩, nonempty⟩ => ⟨inside, nonempty, oneLine⟩,
      fun ⟨inside, nonempty, oneLine⟩ => ⟨⟨inside, oneLine⟩, nonempty⟩⟩
  · rw [choices, Takes, List.mem_reverse, mem_inits_takeWhile]
  · rw [choices, Takes, mem_inits_takeWhile, lineOnly]

private theorem Element.choices_sorted (element : Element) (input : List Char) :
    (element.choices input).Pairwise element.Prefers := by
  rcases element with own | name | ⟨⟨⟩⟩
  · rw [choices]
    split <;> simp
  · exact (inits_sorted _).tail
  · exact List.pairwise_reverse.mpr (inits_sorted _)
  · exact inits_sorted _

theorem choose_complete {elements : List Element} {input : List Char} {parts : List (List Char)}
    (cut : Cut elements input parts) : (choose elements input).isSome = true := by
  obtain ⟨takes, rfl⟩ := cut
  induction takes with
  | nil => rfl
  | @cons element taken elements parts takes later ih =>
    rw [choose, List.findSome?_isSome_iff]
    refine ⟨taken, Element.mem_choices.mpr ⟨by simp, takes⟩, ?_⟩
    rw [Option.isSome_map, List.flatten_cons, List.drop_left]
    exact ih

theorem choose_preferred {elements : List Element} {input : List Char} {parts : List (List Char)}
    (chosen : choose elements input = some parts) : Preferred elements input parts := by
  induction elements generalizing input parts with
  | nil =>
    rw [choose] at chosen
    split at chosen
    next ended =>
      cases chosen
      cases List.isEmpty_iff.mp ended
      exact .nil
    next => cases chosen
  | cons element elements ih =>
    rw [choose, List.findSome?_eq_some_iff] at chosen
    obtain ⟨before, taken, after, ordered, found, failed⟩ := chosen
    obtain ⟨others, later, rfl⟩ := Option.map_eq_some_iff.mp found
    have sorted := element.choices_sorted input
    rw [ordered] at sorted
    have member : taken ∈ element.choices input := by simp [ordered]
    obtain ⟨⟨rest, rfl⟩, takes⟩ := Element.mem_choices.mp member
    rw [List.drop_left] at later
    refine .cons takes (ih later) ?_
    intro other left same otherTakes ⟨cut, isCut⟩
    have inside : other ∈ element.choices (taken ++ rest) :=
      Element.mem_choices.mpr ⟨⟨left, same⟩, otherTakes⟩
    rw [ordered, List.mem_append, List.mem_cons] at inside
    rcases inside with earlier | rfl | worse
    · -- an earlier choice that leaves a cut for the rest would have been chosen
      have none := failed other earlier
      rw [← same, List.drop_left, Option.map_eq_none_iff] at none
      have some := choose_complete isCut
      rw [none] at some
      cases some
    · rcases element with own | name | ⟨⟨⟩⟩ <;> exact Nat.le_refl _
    · exact List.rel_of_pairwise_cons (List.pairwise_append.mp sorted).2.1 worse

/-- The placeholder is short and leaves the blanks to the gap. -/
example : choose (elements "go \x7bplace\x7d~now" .tilde) "go home  now".toList =
    some ["g".toList, "o".toList, " ".toList, "home".toList, "  ".toList, "n".toList, "o".toList,
      "w".toList] := by
  decide +kernel

end TextScenario.Pattern
