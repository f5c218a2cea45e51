import TextScenario.Proofs.RuleBooks

/-! Rules in sequence. The rules of a list that come first decide every text that one of them accepts,
and the rules after them decide all others. Specs that are left out decide nothing. -/

namespace TextScenario

namespace RuleBook

def accepts (book : RuleBook) (text : String) : Bool :=
  book.rules.any fun compiled =>
    compiled.matchers.any fun (_, matcher) => (matcher.captures? (Text.trimmed text)).isSome

private theorem firstMatch?_isSome (compiled : CompiledRule) (line : String) :
    (firstMatch? compiled line).isSome =
      compiled.matchers.any fun (_, matcher) => (matcher.captures? line).isSome := by
  rw [firstMatch?, Bool.eq_iff_iff, List.findSome?_isSome_iff, List.any_eq_true]
  refine exists_congr fun entry => and_congr_right fun _ => ?_
  rw [Option.isSome_map]

theorem find?_isSome (book : RuleBook) (text : String) :
    (book.find? text).isSome = book.accepts text := by
  rw [find?, Bool.eq_iff_iff, List.findSome?_isSome_iff, accepts, List.any_eq_true]
  refine exists_congr fun compiled => and_congr_right fun _ => ?_
  rw [firstMatch?_isSome]

private theorem translate_congr {book other : RuleBook} {action : String}
    (found : book.find? action = other.find? action) (strict : book.strict = other.strict)
    (source : String) : book.translate source action = other.translate source action := by
  rw [translate, translate, found, strict]

/-- A book with the rules of two others finds what the first finds, and what the second finds if the
first finds nothing. -/
theorem find?_append {whole first second : RuleBook} (rules : whole.rules = first.rules ++ second.rules)
    (text : String) :
    whole.find? text = if first.accepts text then first.find? text else second.find? text := by
  rw [find?, rules, List.findSome?_append, ← find?, ← find?, ← find?_isSome]
  cases first.find? text <;> rfl

private theorem translate_of_rules {whole first second : RuleBook} {action : String}
    (rules : whole.rules = first.rules ++ second.rules) (strict : whole.strict = first.strict)
    (equally : whole.strict = second.strict) (source : String) :
    whole.translate source action =
      if first.accepts action then first.translate source action
      else second.translate source action := by
  have found := find?_append rules action
  split
  next accepted =>
    rw [if_pos accepted] at found
    exact translate_congr found strict source
  next refused =>
    rw [if_neg refused] at found
    exact translate_congr found equally source

end RuleBook

namespace Translator

def accepts (translator : Translator) (text : String) : Bool :=
  translator.book.accepts (translator.environment.expand text)

/-- Two lists of specs, one after the other, translate a text as the first list does if that accepts
it, and as the second does otherwise. Lists with the same valid specs in the same order translate all
texts alike, whatever invalid specs stand between these. -/
theorem translate_append (first second : List RuleSpec) (config : TranslationConfig)
    (strict : Option Bool) (environment : Environment) (compiler : PatternCompiler)
    (files : FileSystem) :
    let loaded (rules : List RuleSpec) :=
      load files (.inline rules config) strict environment compiler
    (∀ text, (loaded (first ++ second)).translate text =
      if (loaded first).accepts text then (loaded first).translate text
      else (loaded second).translate text) ∧
    ∀ others, others.filter (·.valid config compiler) = first.filter (·.valid config compiler) →
      ∀ text, (loaded others).translate text = (loaded first).translate text ∧
        (loaded others).translateExpanded text = (loaded first).translateExpanded text := by
  intro loaded
  constructor
  · intro text
    have rules : (loaded (first ++ second)).book.rules =
        (loaded first).book.rules ++ (loaded second).book.rules := by
      simp only [loaded, load_inline_rules, List.filterMap_append]
    exact RuleBook.translate_of_rules rules rfl rfl text
  · intro others same text
    have rules : (loaded others).book.rules = (loaded first).book.rules := by
      simp only [loaded, load_inline_rules]
      rw [← RuleSpec.filter_valid_filterMap, same, RuleSpec.filter_valid_filterMap]
    have found (action : String) :
        (loaded others).book.find? action = (loaded first).book.find? action := by
      rw [RuleBook.find?, RuleBook.find?, rules]
    exact ⟨RuleBook.translate_congr (found _) rfl text,
      RuleBook.translate_congr (found _) rfl text⟩

end Translator

end TextScenario
