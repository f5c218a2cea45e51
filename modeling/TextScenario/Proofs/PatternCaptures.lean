import TextScenario.Proofs.JsonFields
import TextScenario.Proofs.PatternSearch

/-! What is captured by a search that arrives by some cut: each placeholder has the text that it took. -/

namespace TextScenario.Pattern

open Regex (Place Capture)

def Element.name? : Element → Option String
  | .placeholder name => some (String.ofList name)
  | _ => none

def names (elements : List Element) : List String :=
  elements.filterMap Element.name?

theorem names_cons (element : Element) (elements : List Element) :
    names (element :: elements) = element.name?.toList ++ names elements := by
  cases element <;> rfl

theorem inSequence_groupNames (sequence : List Regex) :
    (inSequence sequence).groupNames = sequence.flatMap Regex.groupNames := by
  cases sequence with
  | nil => rfl
  | cons first rest =>
    rw [inSequence, List.flatMap_cons]
    induction rest generalizing first with
    | nil => rw [List.foldl_nil, List.flatMap_nil, List.append_nil]
    | cons second rest ih =>
      rw [List.foldl_cons, ih, Regex.groupNames, List.flatMap_cons, List.append_assoc]

private theorem inSequence_groupIndex? (name : String) (sequence : List Regex) :
    (inSequence sequence).groupIndex? name = sequence.findSome? (·.groupIndex? name) := by
  cases sequence with
  | nil => rfl
  | cons first rest =>
    rw [inSequence, List.findSome?_cons]
    induction rest generalizing first with
    | nil =>
      rw [List.foldl_nil, List.findSome?_nil]
      cases first.groupIndex? name <;> rfl
    | cons second rest ih =>
      rw [List.foldl_cons, ih, Regex.groupIndex?, List.findSome?_cons]
      cases first.groupIndex? name <;> rfl

private theorem regexes_groupNames (groups : Nat) (elements : List Element) :
    (regexes groups elements).flatMap Regex.groupNames = names elements := by
  induction elements generalizing groups with
  | nil => rfl
  | cons element elements ih =>
    rw [regexes, List.flatMap_cons, ih]
    rcases element with own | name | ⟨⟨⟩⟩ <;> rfl

theorem anchored_groupNames (body : Regex) : (anchored body).groupNames = body.groupNames :=
  List.append_nil _

private theorem tree_groupNames (elements : List Element) : (tree elements).groupNames = names elements := by
  have body : (tree elements).groupNames = (inSequence (regexes 0 elements)).groupNames :=
    anchored_groupNames _
  rw [body, inSequence_groupNames, regexes_groupNames]

private theorem tree_groupIndex? (elements : List Element) (name : String) :
    (tree elements).groupIndex? name = (regexes 0 elements).findSome? (·.groupIndex? name) := by
  have body : (tree elements).groupIndex? name =
      ((inSequence (regexes 0 elements)).groupIndex? name).orElse fun _ => none := rfl
  rw [body, inSequence_groupIndex?]
  cases (regexes 0 elements).findSome? (·.groupIndex? name) <;> rfl

private theorem arrive_captured_before {groups index : Nat} (before : index ≤ groups) (input : List Char)
    (elements : List Element) (place : Place) (parts : List (List Char)) :
    (arrive groups elements place parts).captured? input index = place.captured? input index := by
  induction elements generalizing groups place parts with
  | nil => rw [arrive]; simp
  | cons element elements ih =>
    cases parts with
    | nil => rw [arrive]; simp
    | cons text parts =>
      rw [arrive, ih (Nat.le_add_right_of_le before)]
      cases element with
      | char | gap => rfl
      | placeholder name =>
        have higher : (groups + 1 == index) = false := beq_eq_false_iff_ne.mpr (by omega)
        rw [Element.take, Place.captured?, List.find?_cons, higher]
        rfl

/-- Each placeholder has the text that it took in a group of its own. -/
theorem arrive_captured {input : List Char} {elements : List Element} {parts : List (List Char)}
    {groups : Nat} {place : Place} (inside : place.Of input) (whole : parts.flatten = place.rest)
    (distinct : (names elements).Nodup) {name text : List Char}
    (member : (Element.placeholder name, text) ∈ elements.zip parts) :
    ∃ index, (regexes groups elements).findSome? (·.groupIndex? (String.ofList name)) = some index ∧
      (arrive groups elements place parts).captured? input index = some text := by
  induction elements generalizing groups place parts with
  | nil => cases member
  | cons element elements ih =>
    cases parts with
    | nil => cases member
    | cons own parts =>
      rw [List.flatten_cons] at whole
      rcases List.mem_cons.mp member with same | later
      · cases same
        refine ⟨groups + 1, ?_, ?_⟩
        · rw [regexes, List.findSome?_cons, Element.regex, Regex.groupIndex?, if_pos rfl]
        · have before : groups + 1 ≤ groups + (Element.placeholder name).groups := Nat.le_refl _
          rw [arrive, arrive_captured_before before, Element.take, Place.captured?,
            List.find?_cons, beq_self_eq_true]
          dsimp only [Option.map_some]
          rw [← inside, ← whole, Nat.add_sub_cancel_left, List.take_left]
      · -- the first element is another placeholder, or none, so the name is looked up further on
        have known : String.ofList name ∈ names elements :=
          List.mem_filterMap.mpr ⟨_, (List.of_mem_zip later).1, rfl⟩
        have within : (element.take (groups + 1) place own).Of input := by
          cases element <;> exact inside.after own
        have rest : parts.flatten = (element.take (groups + 1) place own).rest := by
          rw [Element.take_rest, ← whole, List.drop_left]
        have others : (names elements).Nodup := by
          cases element with
          | char | gap => exact distinct
          | placeholder other => exact (List.nodup_cons.mp distinct).2
        have unnamed : (element.regex (groups + 1)).groupIndex? (String.ofList name) = none := by
          rcases element with own | other | ⟨⟨⟩⟩
          · rfl
          · have different : String.ofList other ≠ String.ofList name := fun same =>
              (List.nodup_cons.mp distinct).1 (same ▸ known)
            rw [Element.regex, Regex.groupIndex?, if_neg (by simpa using different)]
            rfl
          · rfl
          · rfl
        obtain ⟨index, found, captured⟩ := ih within rest others later
        refine ⟨index, ?_, captured⟩
        rw [regexes, List.findSome?_cons, unnamed]
        exact found

/-- What a search gives back: every name of the pattern, with the trimmed text that it took. -/
theorem parametersOf_arrive {elements : List Element} {input : List Char} {parts : List (List Char)}
    (cut : Cut elements input parts) (distinct : (names elements).Nodup) :
    let stop := arrive 0 elements { offset := 0, previous := none, rest := input } parts
    let parameters := Matcher.parametersOf (tree elements) input stop
    (∀ name, name ∈ parameters.map (·.1) ↔ name ∈ names elements) ∧
      ∀ name text, (Element.placeholder name, text) ∈ elements.zip parts →
        parameters.lookup (String.ofList name) = some (some (String.ofList (Text.trim text))) := by
  intro stop parameters
  have lookup (name : String) : parameters.lookup name =
      if name ∈ names elements then
        some (((tree elements).groupIndex? name).bind fun index =>
          (stop.captured? input index).map fun text => String.ofList (Text.trim text))
      else none := by
    rw [← tree_groupNames]
    exact Json.lookup_sortFields_map _ _ name
  constructor
  · intro name
    rw [Json.mem_names_iff, lookup]
    split <;> simpa
  · intro name text member
    have known : String.ofList name ∈ names elements :=
      List.mem_filterMap.mpr ⟨_, (List.of_mem_zip member).1, rfl⟩
    have start : ({ offset := 0, previous := none, rest := input } : Place).Of input := rfl
    obtain ⟨index, found, captured⟩ := arrive_captured start cut.whole distinct member
    rw [lookup, if_pos known, tree_groupIndex?, found, Option.bind_some, captured, Option.map_some]

end TextScenario.Pattern
