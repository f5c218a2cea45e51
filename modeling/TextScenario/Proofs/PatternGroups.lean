import TextScenario.Proofs.PatternFragments
import TextScenario.Rule

/-! Groups of a compiled pattern. Cutting a pattern into segments neither parts nor joins placeholders, so the
names that are looked at before anything is compiled are those of the groups that the expression is written with.
They are groups of what is compiled, too, as long as the fragments of the library are contained. -/

namespace TextScenario

/-- The names that the fragment for a placeholder gives to groups of its own. -/
def Library.groupNames [Regex.Engine] (library : Library) (name : String) : List String :=
  ((library.fragment? name).bind fun fragment => Regex.read? fragment.toList).elim [] Regex.groupNames

namespace Pattern

open Regex (Node)

variable {library : Library}

private theorem groupNames_fragment [Regex.Engine] {name : List Char} {regex : Regex}
    (read : Regex.read? (fragmentOf library name) = some regex) :
    library.groupNames (String.ofList name) = regex.groupNames := by
  unfold Library.groupNames
  cases found : library.fragment? (String.ofList name) with
  | none =>
    have unnamed : Regex.read? defaultFragment =
        if 1 ≤ Regex.greatestNesting ∧ Regex.Engine.takes (.repeated (.chars notNewline) 1 none false) then
          some (.repeated (.chars notNewline) 1 none false)
        else none := rfl
    rw [fragmentOf_none found, unnamed] at read
    split at read
    · cases read
      rfl
    · contradiction
  | some fragment =>
    rw [fragmentOf_some found] at read
    rw [Option.bind_some, read, Option.elim_some]

/-- Only a placeholder has groups: its own, and then those of its fragment. -/
theorem Stands.groupNames [Regex.Engine] {element : Element} {node : Node} (stands : Stands library element node)
    (shallow : node.depth ≤ Regex.greatestNesting) (small : Regex.Engine.takes node.regex = true) :
    node.regex.groupNames = element.name?.toList.flatMap fun name => name :: library.groupNames name := by
  cases element with
  | char own =>
    cases stands
    rfl
  | gap delimiter =>
    cases stands
    cases delimiter <;> rfl
  | placeholder name =>
    obtain ⟨regex, read, named⟩ := stands.fragment shallow small
    rw [named, ← groupNames_fragment read]
    exact (List.append_nil _).symm

private theorem stands_groupNames [Regex.Engine] {elements : List Element} {nodes : List Node}
    (stand : List.Forall₂ (Stands library) elements nodes)
    (sized : ∀ node ∈ nodes, node.depth ≤ Regex.greatestNesting ∧ Regex.Engine.takes node.regex = true) :
    (nodes.map Node.regex).flatMap Regex.groupNames =
      (names elements).flatMap fun name => name :: library.groupNames name := by
  induction stand with
  | nil => rfl
  | cons first _ ih =>
    obtain ⟨⟨shallow, small⟩, others⟩ := List.forall_mem_cons.mp sized
    rw [List.map_cons, List.flatMap_cons, first.groupNames shallow small, ih others, names_cons,
      List.flatMap_append]

/-- The groups of a pattern that is compiled, if the fragments for its placeholders are contained. -/
theorem compile_groupNames [Regex.Engine] {pattern : String} {delimiter : Delimiter} {side : Regex.Side}
    {matcher : Matcher}
    (contained : ∀ name, .placeholder name ∈ elements pattern delimiter →
      Regex.Contained side (fragmentOf library name))
    (compiled : PatternCompiler.regular.compile pattern delimiter library = .ok matcher) :
    ∃ regex, matcher = .ofRegex (expression pattern delimiter library) regex ∧
      regex.groupNames = (placeholders pattern).flatMap fun name => name :: library.groupNames name := by
  rcases compile_contained (check_of_compile compiled) contained with failed | ⟨nodes, stand, succeeded, sized⟩
  · rw [failed] at compiled
    cases compiled
  · rw [succeeded] at compiled
    cases compiled
    refine ⟨_, rfl, ?_⟩
    rw [anchored_groupNames, inSequence_groupNames, stands_groupNames stand sized, names_elements]

private theorem placeholders_segments (pattern : String) (delimiter : Delimiter) :
    ((segments pattern.toList delimiter).flatMap fun segment => placeholders (String.ofList segment)) =
      placeholders pattern := by
  have kept := congrArg (List.map String.ofList) (placeholderChars_segments pattern.toList delimiter)
  rw [List.map_flatMap] at kept
  simpa only [placeholders, String.toList_ofList] using kept

end Pattern

theorem RuleSpec.missing_mem_problems_iff (spec : RuleSpec) (name : String) :
    "required parameter `" ++ name ++ "` is not captured by any pattern" ∈ spec.problems ↔
      name ∈ spec.required ∧ ∀ pattern ∈ spec.patterns, name ∉ Pattern.placeholders pattern := by
  -- the other problems begin with another letter
  have other (plain : String) (begins : plain.toList.head? ≠ some 'r') (faulty : Prop) [Decidable faulty] :
      "required parameter `" ++ name ++ "` is not captured by any pattern" ∉ (if faulty then [plain] else []) := by
    intro member
    split at member
    · apply begins
      rw [← List.mem_singleton.mp member]
      simp
    · cases member
  simp only [problems, List.mem_append, other "name must be a non-empty string" (by decide),
    other "patterns must be a non-empty list" (by decide),
    other "template must be a non-empty string" (by decide), false_or, List.mem_map, List.mem_filter]
  simp

open Pattern (Element elements placeholders)

/-- The segments of a pattern have its placeholders, in the same order, and each segment is made up of its pieces.
Whatever the library, the expression is written with one group for each placeholder, in this order; by the names of
these groups a pattern is checked for repeated placeholders and a rule for the parameters it requires. If the
fragments are contained, what is compiled has these groups, each with those of its fragment behind it. -/
theorem PatternCompiler.regular_groups [Regex.Engine] (pattern : String) (delimiter : Delimiter) (library : Library) :
    ((Pattern.segments pattern.toList delimiter).flatMap fun segment => placeholders (String.ofList segment)) =
      placeholders pattern ∧
    (∀ segment, (Text.pieces Pattern.nameRule segment).flatMap Text.Piece.source = segment) ∧
    ((Pattern.expression pattern delimiter library).toList =
        "^(?:".toList ++ ((elements pattern delimiter).flatMap (Element.textIn library) ++ ")$".toList) ∧
      Pattern.names (elements pattern delimiter) = placeholders pattern) ∧
    (Pattern.check pattern delimiter = .ok () ↔
      Text.trim pattern.toList ≠ [] ∧ delimiter.other.char ∉ pattern.toList ∧
        (Pattern.names (elements pattern delimiter)).Nodup) ∧
    (∀ (spec : RuleSpec) (name : String),
      "required parameter `" ++ name ++ "` is not captured by any pattern" ∈ spec.problems ↔
        name ∈ spec.required ∧
          ∀ pattern ∈ spec.patterns, name ∉ Pattern.names (elements pattern delimiter)) ∧
    ∀ side, (∀ name ∈ placeholders pattern, ∀ fragment, library.fragment? name = some fragment →
        Regex.Contained side fragment.toList) →
      ∀ matcher, PatternCompiler.regular.compile pattern delimiter library = .ok matcher →
        ∃ regex, matcher = .ofRegex (Pattern.expression pattern delimiter library) regex ∧
          regex.groupNames = (placeholders pattern).flatMap fun name => name :: library.groupNames name := by
  have written := Pattern.expression_toList pattern delimiter library
  refine ⟨Pattern.placeholders_segments pattern delimiter, Text.pieces_source Pattern.nameRule,
    ⟨written, Pattern.names_elements pattern delimiter⟩, ?_, ?_, ?_⟩
  · rw [Pattern.names_elements]
    exact Pattern.check_eq_ok_iff
  · intro spec name
    simp only [Pattern.names_elements]
    exact spec.missing_mem_problems_iff name
  · intro side contained matcher compiled
    exact Pattern.compile_groupNames (Pattern.contained_elements contained) compiled

private def prices : Library := .ofList [("amount", "[0-9]+(?:[.](?P<cents>[0-9]+))?")]

/-- The fragment for an amount has a group of its own for the cents. -/
theorem PatternCompiler.regular_groups_amount :
    (∀ name ∈ placeholders "pay \x7bamount\x7d to \x7bwho\x7d", ∀ fragment,
      prices.fragment? name = some fragment → Regex.Contained .closing fragment.toList) ∧
    ∃ matcher, PatternCompiler.regular.compile "pay \x7bamount\x7d to \x7bwho\x7d" .tilde prices = .ok matcher ∧
      ∃ regex,
        matcher = .ofRegex (Pattern.expression "pay \x7bamount\x7d to \x7bwho\x7d" .tilde prices) regex ∧
        regex.groupNames = ["amount", "cents", "who"] := by
  have contained : ∀ name ∈ placeholders "pay \x7bamount\x7d to \x7bwho\x7d", ∀ fragment,
      prices.fragment? name = some fragment → Regex.Contained .closing fragment.toList := by
    have named : placeholders "pay \x7bamount\x7d to \x7bwho\x7d" = ["amount", "who"] := by decide
    have amount : prices.fragment? "amount" = some "[0-9]+(?:[.](?P<cents>[0-9]+))?" := by decide
    have who : prices.fragment? "who" = none := by decide
    intro name member fragment found
    rw [named, List.mem_cons, List.mem_singleton] at member
    rcases member with rfl | rfl
    · cases amount.symm.trans found
      exact Regex.contained_amount
    · cases who.symm.trans found
  have checked : Pattern.check "pay \x7bamount\x7d to \x7bwho\x7d" .tilde = .ok () := by decide
  have read : (Regex.read? (Pattern.expression "pay \x7bamount\x7d to \x7bwho\x7d" .tilde prices).toList).isSome =
      true := by decide +kernel
  obtain ⟨tree, read⟩ := Option.isSome_iff_exists.mp read
  have compiled := Pattern.compile_read checked read
  obtain ⟨-, -, -, -, -, groups⟩ :=
    PatternCompiler.regular_groups "pay \x7bamount\x7d to \x7bwho\x7d" .tilde prices
  obtain ⟨regex, same, names⟩ := groups .closing contained _ compiled
  refine ⟨contained, _, compiled, regex, same, names.trans ?_⟩
  decide +kernel

private def commented : Library := .ofList [("n", "(?x)a#"), ("m", "\nb")]

/-- Both fragments are expressions on their own. The first ends in a comment, which goes on to the end of the line, so
in the pattern it takes the parenthesis after it and the one that should open the next group. The parameter that the
rule requires passes its check, and is captured by nothing. -/
theorem PatternCompiler.regular_swallows :
    (Regex.read? "(?x)a#".toList).isSome = true ∧ (Regex.read? "\nb".toList).isSome = true ∧
      commented.fragments = [("m", "\nb"), ("n", "(?x)a#")] ∧
      Pattern.check "\x7bn\x7d\x7bm\x7d" .tilde = .ok () ∧
      placeholders "\x7bn\x7d\x7bm\x7d" = ["n", "m"] ∧
      ({ name := some "swap", patterns := ["\x7bn\x7d\x7bm\x7d"], template := some "act: \x7bm\x7d",
         required := ["m"] } : RuleSpec).problems = [] ∧
      ∃ regex, PatternCompiler.regular.compile "\x7bn\x7d\x7bm\x7d" .tilde commented =
          .ok (.ofRegex (Pattern.expression "\x7bn\x7d\x7bm\x7d" .tilde commented) regex) ∧
        regex.groupNames = ["n"] ∧
        (Matcher.ofRegex (Pattern.expression "\x7bn\x7d\x7bm\x7d" .tilde commented) regex).captures? "ab" =
          some [("n", some "ab")] := by
  have checked : Pattern.check "\x7bn\x7d\x7bm\x7d" .tilde = .ok () := by decide
  have read : ((Regex.read? (Pattern.expression "\x7bn\x7d\x7bm\x7d" .tilde commented).toList).map fun regex =>
      (regex.groupNames, (regex.search? "ab".toList).map (Matcher.parametersOf regex "ab".toList))) =
      some (["n"], some [("n", some "ab")]) := by decide +kernel
  obtain ⟨regex, found, same⟩ := Option.map_eq_some_iff.mp read
  obtain ⟨groups, captured⟩ := Prod.mk.inj same
  exact ⟨rfl, rfl, by decide, checked, by decide, by decide, regex, Pattern.compile_read checked found, groups,
    captured⟩

end TextScenario
