import TextScenario.Proofs.PatternNames
import TextScenario.Proofs.PatternReading

/-! What a compiled pattern means. It accepts exactly the inputs that can be cut along the pattern, and
it captures the trimmed texts of the preferred cut. -/

namespace TextScenario.Pattern

private theorem segmentExpression_elements (library : Library) (segment : List Char) :
    segmentExpression library segment =
      ((Text.pieces nameRule segment).map Element.ofPiece).flatMap (Element.textIn library) := by
  rw [segmentExpression, List.flatMap_map]
  congr 1
  funext piece
  cases piece <;> rfl

private theorem joinTexts_elementsOf (delimiter : Delimiter) (library : Library) (segments : List (List Char)) :
    joinTexts delimiter.joiner (segments.map (segmentExpression library)) =
      (elementsOf delimiter segments).flatMap (Element.textIn library) := by
  fun_induction elementsOf delimiter segments with
  | case1 => rfl
  | case2 only => exact segmentExpression_elements library only
  | case3 first rest nonempty ih =>
    cases rest with
    | nil => exact absurd rfl nonempty
    | cons second rest =>
      rw [List.map_cons, List.map_cons, joinTexts, ← List.map_cons, ih, segmentExpression_elements,
        List.flatMap_append, List.flatMap_cons, List.append_assoc]
      · rfl
      · simp

theorem expression_toList (pattern : String) (delimiter : Delimiter) (library : Library) :
    (expression pattern delimiter library).toList =
      "^(?:".toList ++ ((elements pattern delimiter).flatMap (Element.textIn library) ++ ")$".toList) := by
  rw [expression, String.toList_ofList, expressionChars, joinTexts_elementsOf, ← List.append_assoc]
  rfl

private theorem textIn_plain {library : Library} {elements : List Element}
    (plain : ∀ name ∈ names elements, library.fragment? name = none) :
    elements.flatMap (Element.textIn library) = elements.flatMap Element.text := by
  induction elements with
  | nil => rfl
  | cons element elements ih =>
    cases element with
    | char own => rw [List.flatMap_cons, List.flatMap_cons, ih plain]; rfl
    | gap delimiter => rw [List.flatMap_cons, List.flatMap_cons, ih plain]; rfl
    | placeholder name =>
      obtain ⟨here, others⟩ := List.forall_mem_cons.mp plain
      rw [List.flatMap_cons, List.flatMap_cons, ih others, Element.textIn, pieceExpression, here]
      rfl

private theorem tree_search?_isSome {elements : List Element} {input : List Char} :
    ((tree elements).search? input).isSome = true ↔ ∃ parts, Cut elements input parts := by
  rw [tree_search?, Option.isSome_map]
  constructor
  · intro found
    obtain ⟨parts, chosen⟩ := Option.isSome_iff_exists.mp found
    exact ⟨parts, (choose_preferred chosen).cut⟩
  · rintro ⟨parts, cut⟩
    exact choose_complete cut

section

variable {pattern : String} {delimiter : Delimiter} {library : Library}

theorem check_of_compile [Regex.Engine] {matcher : Matcher}
    (compiled : PatternCompiler.regular.compile pattern delimiter library = .ok matcher) :
    check pattern delimiter = .ok () := by
  simp only [PatternCompiler.regular, bind, Except.bind] at compiled
  split at compiled
  next => cases compiled
  next checked => exact checked

theorem compile_read [Regex.Engine] (checked : check pattern delimiter = .ok ()) {regex : Regex}
    (read : Regex.read? (expression pattern delimiter library).toList = some regex) :
    PatternCompiler.regular.compile pattern delimiter library =
      .ok (.ofRegex (expression pattern delimiter library) regex) := by
  simp only [PatternCompiler.regular, checked, read]
  rfl

theorem compile_unread [Regex.Engine] (checked : check pattern delimiter = .ok ())
    (read : Regex.read? (expression pattern delimiter library).toList = none) :
    PatternCompiler.regular.compile pattern delimiter library = .error .invalidExpression := by
  simp only [PatternCompiler.regular, checked, read]
  rfl

/-- Compiling succeeds for every checked pattern whose expression is not too large. -/
theorem compile_plain [Regex.Engine] (checked : check pattern delimiter = .ok ())
    (plain : ∀ name ∈ placeholders pattern, library.fragment? name = none) :
    PatternCompiler.regular.compile pattern delimiter library =
      if Regex.Engine.takes (tree (elements pattern delimiter)) then
        .ok (.ofRegex (expression pattern delimiter library) (tree (elements pattern delimiter)))
      else .error .invalidExpression := by
  have distinct : (names (elements pattern delimiter)).Nodup := by
    rw [names_elements]
    exact placeholders_nodup checked
  have accepted (name : List Char) (member : .placeholder name ∈ elements pattern delimiter) :
      nameRule.accepts name = true := elementsOf_accepted member
  have read := read?_texts accepted distinct
  rw [← names_elements pattern delimiter] at plain
  rw [← textIn_plain plain, ← expression_toList] at read
  by_cases fits : Regex.Engine.takes (tree (elements pattern delimiter)) = true
  · rw [if_pos fits] at read ⊢
    exact compile_read checked read
  · rw [if_neg fits] at read ⊢
    exact compile_unread checked read

end

end TextScenario.Pattern

namespace TextScenario

open Pattern (Element Cut Preferred elements placeholders)

private theorem Matcher.ofRegex_captures? (expression : String) (regex : Regex) (input : String) :
    (Matcher.ofRegex expression regex).captures? input =
      (regex.search? input.toList).map (Matcher.parametersOf regex input.toList) := rfl

theorem Pattern.captures?_isSome [Regex.Engine] {pattern : String} {delimiter : Delimiter} {library : Library} {matcher : Matcher}
    (compiled : PatternCompiler.regular.compile pattern delimiter library = .ok matcher)
    (plain : ∀ name ∈ placeholders pattern, library.fragment? name = none) (input : String) :
    (matcher.captures? input).isSome = true ↔
      ∃ parts, Cut (elements pattern delimiter) input.toList parts := by
  rw [Pattern.compile_plain (Pattern.check_of_compile compiled) plain] at compiled
  split at compiled
  · cases compiled
    rw [Matcher.ofRegex_captures?, Option.isSome_map, Pattern.tree_search?_isSome]
  · cases compiled

/-- What a matcher for a pattern has to say about an input. -/
structure Matcher.Means (matcher : Matcher) (pattern : String) (delimiter : Delimiter)
    (input : String) : Prop where
  accepts : (matcher.captures? input).isSome = true ↔
    ∃ parts, Cut (elements pattern delimiter) input.toList parts
  captures : ∀ parameters, matcher.captures? input = some parameters →
    ∃ parts, Preferred (elements pattern delimiter) input.toList parts ∧
      (∀ name, name ∈ parameters.map (·.1) ↔ name ∈ placeholders pattern) ∧
      ∀ name text, (Element.placeholder name, text) ∈ (elements pattern delimiter).zip parts →
        parameters.lookup (String.ofList name) = some (some (String.ofList (Text.trim text)))

/-- Every checked pattern without fragments of its own is compiled to a matcher that means it, unless
its expression is too large. -/
theorem PatternCompiler.regular_means [Regex.Engine] {pattern : String} {delimiter : Delimiter} {library : Library}
    (checked : Pattern.check pattern delimiter = .ok ())
    (plain : ∀ name ∈ placeholders pattern, library.fragment? name = none)
    (fits : Regex.Engine.takes (Pattern.tree (elements pattern delimiter)) = true) :
    ∃ matcher, PatternCompiler.regular.compile pattern delimiter library = .ok matcher ∧
      ∀ input, matcher.Means pattern delimiter input := by
  refine ⟨_, (Pattern.compile_plain checked plain).trans (if_pos fits), ?_⟩
  intro input
  have distinct : (Pattern.names (elements pattern delimiter)).Nodup := by
    rw [Pattern.names_elements]
    exact Pattern.placeholders_nodup checked
  constructor
  · rw [Matcher.ofRegex_captures?, Option.isSome_map, Pattern.tree_search?_isSome]
  · intro parameters found
    rw [Matcher.ofRegex_captures?, Pattern.tree_search?, Option.map_map, Option.map_eq_some_iff] at found
    obtain ⟨parts, chosen, rfl⟩ := found
    have preferred := Pattern.choose_preferred chosen
    obtain ⟨keys, values⟩ := Pattern.parametersOf_arrive preferred.cut distinct
    rw [Pattern.names_elements] at keys
    exact ⟨parts, preferred, keys, values⟩

theorem PatternCompiler.regular_means_page :
    (Pattern.check "open \x7bpage\x7d ~ again" .tilde = .ok () ∧
      (∀ name ∈ placeholders "open \x7bpage\x7d ~ again", Library.fragment? {} name = none) ∧
      Regex.Engine.takes (Pattern.tree (elements "open \x7bpage\x7d ~ again" .tilde)) = true) ∧
    ∃ matcher, PatternCompiler.regular.compile "open \x7bpage\x7d ~ again" .tilde {} = .ok matcher ∧
      ∀ input, matcher.Means "open \x7bpage\x7d ~ again" .tilde input := by
  have checked : Pattern.check "open \x7bpage\x7d ~ again" .tilde = .ok () := by decide
  have plain : ∀ name ∈ placeholders "open \x7bpage\x7d ~ again", Library.fragment? {} name = none :=
    fun _ _ => rfl
  have fits : Regex.Engine.takes (Pattern.tree (elements "open \x7bpage\x7d ~ again" .tilde)) = true := by
    decide +kernel
  exact ⟨⟨checked, plain, fits⟩, PatternCompiler.regular_means checked plain fits⟩

end TextScenario
