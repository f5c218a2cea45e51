import TextScenario.Proofs.PatternMeaning
import TextScenario.Proofs.RuleComposition

/-! Blank texts and rules. Every element of a pattern takes some text, but for the gaps between segments.
So a blank text, which is trimmed to nothing, is accepted only by a pattern that has no segment at all. -/

namespace TextScenario.Pattern
open Text

/-- Whether a pattern says nothing: it has delimiters and blanks only. -/
def isBare (pattern : String) (delimiter : Delimiter) : Bool :=
  pattern.toList.all fun char => char == delimiter.char || isBlank char

theorem isBare_iff {pattern : String} {delimiter : Delimiter} :
    isBare pattern delimiter = true ↔
      ∀ char ∈ pattern.toList, char = delimiter.char ∨ isBlank char = true := by
  simp [isBare]

private theorem check_filled {pattern : String} {delimiter : Delimiter} (checked : check pattern delimiter = .ok ()) :
    trim pattern.toList ≠ [] :=
  (check_eq_ok_iff.mp checked).1

section

variable {pattern : String} {delimiter : Delimiter} (filled : trim pattern.toList ≠ [])
include filled

/-- A pattern that is not blank has no segment exactly if it says nothing. -/
theorem segments_eq_nil_iff : segments pattern.toList delimiter = [] ↔ isBare pattern delimiter = true := by
  rw [isBare_iff, segments]
  split
  · rw [← forall_splitAt_iff, List.filter_eq_nil_iff, List.forall_mem_map]
    simp only [Bool.not_eq_true, Bool.not_eq_false', List.isEmpty_iff, trim_eq_nil_iff]
  next undelimited =>
    simp only [List.contains_iff_mem] at undelimited
    refine iff_of_false (List.cons_ne_nil _ _) fun bare => filled (trim_eq_nil_iff.mpr ?_)
    intro char member
    refine (bare char member).resolve_left ?_
    rintro rfl
    exact undelimited member

private theorem segments_filled : ∀ segment ∈ segments pattern.toList delimiter, segment ≠ [] := by
  intro segment member
  rw [segments] at member
  split at member
  · simpa using (List.mem_filter.mp member).2
  · rw [List.mem_singleton] at member
    rintro rfl
    rw [← member] at filled
    exact filled rfl

end

theorem cut_nil_iff {elements : List Element} :
    (∃ parts, Cut elements [] parts) ↔ ∀ element ∈ elements, element.Takes [] := by
  constructor
  · rintro ⟨parts, takes, whole⟩
    rw [List.flatten_eq_nil_iff] at whole
    induction takes with
    | nil => simp
    | cons here later ih =>
      obtain ⟨rfl, others⟩ := List.forall_mem_cons.mp whole
      exact List.forall_mem_cons.mpr ⟨here, ih others⟩
  · intro takes
    refine ⟨elements.map fun _ => [], ?_, by simp⟩
    rw [List.forall₂_map_right_iff, List.forall₂_same]
    exact takes

private theorem ofPiece_filled (piece : Piece) : ¬ (Element.ofPiece piece).Takes [] := by
  cases piece with
  | char own => exact fun taken => absurd taken (List.cons_ne_nil own []).symm
  | placeholder name => exact fun taken => taken.1 rfl

theorem elementsOf_takes_nil_iff {delimiter : Delimiter} {segments : List (List Char)}
    (filled : ∀ segment ∈ segments, segment ≠ []) :
    (∀ element ∈ elementsOf delimiter segments, element.Takes []) ↔ segments = [] := by
  cases segments with
  | nil => simp [elementsOf]
  | cons first rest =>
    refine iff_of_false (fun takes => ?_) (List.cons_ne_nil _ _)
    have some : pieces nameRule first ≠ [] := by
      intro none
      have source := pieces_source nameRule first
      rw [none] at source
      exact filled first (by simp) source.symm
    obtain ⟨piece, others, found⟩ := List.exists_cons_of_ne_nil some
    have member : Element.ofPiece piece ∈ elementsOf delimiter (first :: rest) := by
      cases rest <;> simp [elementsOf, found]
    exact ofPiece_filled piece (takes _ member)

theorem captures?_empty [Regex.Engine] {pattern : String} {delimiter : Delimiter} {library : Library} {matcher : Matcher}
    (compiled : PatternCompiler.regular.compile pattern delimiter library = .ok matcher)
    (plain : ∀ name ∈ placeholders pattern, library.fragment? name = none) :
    (matcher.captures? "").isSome = isBare pattern delimiter := by
  have filled := check_filled (check_of_compile compiled)
  rw [Bool.eq_iff_iff, captures?_isSome compiled plain, ← segments_eq_nil_iff filled,
    ← elementsOf_takes_nil_iff (segments_filled filled)]
  exact cut_nil_iff

end TextScenario.Pattern

namespace TextScenario

private theorem Environment.expandChars_absent (environment : Environment) {text : List Char} (absent : '%' ∉ text) :
    environment.expandChars text = text := by
  rw [expandChars, Text.splitAt_absent absent]
  exact List.append_nil text

private theorem RuleSpec.declared_of_matchers {spec : RuleSpec} {delimiter : Delimiter} {library : Library}
    {compiler : PatternCompiler} {entry : String × Matcher}
    (member : entry ∈ spec.matchers delimiter library compiler) : entry.1 ∈ spec.patterns := by
  obtain ⟨pattern, declared, found⟩ := List.mem_filterMap.mp member
  split at found
  · cases found
    exact declared
  · cases found

namespace RuleBook

theorem translate_agent_iff {book : RuleBook} {source action : String} :
    book.translate source action = .ok (.agent action source) ↔ book.find? action = none := by
  rw [translate]
  cases book.find? action with
  | none => simp
  | some found =>
    dsimp only
    split <;> simp

/-- A rule book without fragments for its placeholders finds no rule for a blank text exactly if none of its
patterns says nothing, and then every translator with this book hands the text to the agent. -/
theorem build_blank_iff [Regex.Engine] (source : String) {entries : List (Nat × RuleSpec)} {config : TranslationConfig}
    (known : List Issue) (strict : Option Bool)
    (plain : ∀ entry ∈ entries, ∀ pattern ∈ entry.2.patterns, ∀ name ∈ Pattern.placeholders pattern,
      config.library.fragment? name = none)
    {text : String} (blank : ∀ char ∈ text.toList, Text.isBlank char = true) :
    let book := build source entries config known strict .regular
    let filled := ∀ compiled ∈ book.rules, ∀ pattern ∈ compiled.rule.patterns,
      Pattern.isBare pattern config.delimiter = false
    (book.find? text = none ↔ filled) ∧
      ∀ translator : Translator, translator.book = book →
        (translator.translate text = .ok (.agent text text) ↔ filled) := by
  intro book filled
  have empty : Text.trimmed text = "" := by
    rw [Text.trimmed, Text.trim_eq_nil_iff.mpr blank]
  have accepted (compiled : CompiledRule) (member : compiled ∈ book.rules) (entry : String × Matcher)
      (matched : entry ∈ compiled.matchers) :
      (entry.2.captures? "").isSome = Pattern.isBare entry.1 config.delimiter := by
    rw [build_rules] at member
    obtain ⟨numbered, listed, found⟩ := List.mem_filterMap.mp member
    rw [RuleSpec.compiled?_matchers found] at matched
    exact Pattern.captures?_empty (RuleSpec.mem_matchers matched)
      (plain numbered listed entry.1 (RuleSpec.declared_of_matchers matched))
  have unfound : book.find? text = none ↔ filled := by
    rw [← Option.not_isSome_iff_eq_none, find?_isSome, accepts, empty]
    simp only [List.any_eq_true, not_exists, not_and, Bool.not_eq_true]
    refine forall₂_congr fun compiled member => ?_
    rw [← compiled.declared, List.forall_mem_map]
    refine forall₂_congr fun entry matched => ?_
    rw [accepted compiled member entry matched]
  refine ⟨unfound, fun translator same => ?_⟩
  have noVariable : '%' ∉ text.toList := fun member => absurd (blank '%' member) (by decide)
  have plainText : translator.environment.expand text = text := by
    rw [Environment.expand, Environment.expandChars_absent _ noVariable, String.ofList_toList]
  rw [Translator.translate, plainText, same, translate_agent_iff]
  exact unfound

/-- A placeholder takes something, and so does the literal text between two delimiters. -/
theorem build_blank_page :
    let entries : List (Nat × RuleSpec) :=
      [(0,
        { name := some "open"
          patterns := ["\x7bpage\x7d", "~again~"]
          template := some "act: open \x7bpage\x7d" })]
    let book := build "inline" entries {} [] none .regular
    (∀ entry ∈ entries, ∀ pattern ∈ entry.2.patterns, ∀ name ∈ Pattern.placeholders pattern,
      Library.fragment? {} name = none) ∧
    (∀ char ∈ " \t".toList, Text.isBlank char = true) ∧
    book.rules.length = 1 ∧ book.find? " \t" = none := by
  intro entries book
  have plain : ∀ entry ∈ entries, ∀ pattern ∈ entry.2.patterns,
      ∀ name ∈ Pattern.placeholders pattern, Library.fragment? {} name = none := fun _ _ _ _ _ _ => rfl
  have blank : ∀ char ∈ " \t".toList, Text.isBlank char = true := List.all_eq_true.mp (by decide)
  have filled : ∀ compiled ∈ book.rules, ∀ pattern ∈ compiled.rule.patterns,
      Pattern.isBare pattern .tilde = false := by decide +kernel
  exact ⟨plain, blank, by decide +kernel, (build_blank_iff "inline" [] none plain blank).1.mpr filled⟩

/-- A pattern that is a delimiter and nothing else passes its check, and its rule takes every blank text. -/
theorem build_blank_delimiter :
    let entries : List (Nat × RuleSpec) :=
      [(0, { name := some "wait", patterns := ["~"], template := some "act: wait" })]
    let book := build "inline" entries {} [] none .regular
    (∀ entry ∈ entries, ∀ pattern ∈ entry.2.patterns, ∀ name ∈ Pattern.placeholders pattern,
      Library.fragment? {} name = none) ∧
    (∀ char ∈ "  ".toList, Text.isBlank char = true) ∧
    ((book.translate "  " "  ").toOption.map Translation.engine) = some "rules" := by
  intro entries book
  exact ⟨fun _ _ _ _ _ _ => rfl, List.all_eq_true.mp (by decide), by decide +kernel⟩

end RuleBook

end TextScenario
