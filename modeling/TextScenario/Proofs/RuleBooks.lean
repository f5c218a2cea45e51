import TextScenario.Translator

/-! Rule books and the specs that they are compiled from. A spec becomes the same rule wherever it
stands, and it is left out exactly if something is wrong with it. -/

namespace TextScenario

namespace RuleSpec

variable {config : TranslationConfig} {compiler : PatternCompiler}

def valid (spec : RuleSpec) (config : TranslationConfig) (compiler : PatternCompiler) : Bool :=
  spec.problems.isEmpty &&
    spec.patterns.all fun pattern =>
      (compiler.compile pattern config.delimiter config.library).isOk

def compiled? (spec : RuleSpec) (config : TranslationConfig) (compiler : PatternCompiler) :
    Option CompiledRule :=
  (spec.compile "" 0 config.delimiter config.library compiler).toOption

theorem compile_toOption (spec : RuleSpec) (source : String) (index : Nat) :
    (spec.compile source index config.delimiter config.library compiler).toOption =
      spec.compiled? config compiler := by
  rw [compiled?, compile, compile]
  split <;> rfl

theorem failures_eq_nil_iff (spec : RuleSpec) (delimiter : Delimiter) (library : Library) :
    spec.failures delimiter library compiler = [] ↔
      ∀ pattern ∈ spec.patterns, (compiler.compile pattern delimiter library).isOk = true := by
  rw [failures, List.filterMap_eq_nil_iff]
  refine forall_congr' fun pattern => imp_congr_right fun _ => ?_
  cases compiler.compile pattern delimiter library with
  | ok matcher => exact ⟨fun _ => rfl, fun _ => rfl⟩
  | error error => simp [Except.isOk, Except.toBool]

private theorem compiled?_isSome (spec : RuleSpec) :
    (spec.compiled? config compiler).isSome = spec.valid config compiler := by
  have clean : spec.problems ++ spec.failures config.delimiter config.library compiler = [] ↔
      spec.valid config compiler = true := by
    rw [List.append_eq_nil_iff, failures_eq_nil_iff, valid, Bool.and_eq_true, List.isEmpty_iff,
      List.all_eq_true]
  rw [compiled?, compile]
  split
  next none => exact (clean.mp none).symm
  next some => exact (Bool.eq_false_iff.mpr (mt clean.mpr some)).symm

theorem filter_valid_filterMap (specs : List RuleSpec) (config : TranslationConfig)
    (compiler : PatternCompiler) :
    (specs.filter (·.valid config compiler)).filterMap (·.compiled? config compiler) =
      specs.filterMap (·.compiled? config compiler) := by
  rw [List.filterMap_filter]
  refine congrArg (List.filterMap · specs) (funext fun spec => ?_)
  split
  next => rfl
  next invalid =>
    rw [← compiled?_isSome] at invalid
    exact (Option.not_isSome_iff_eq_none.mp invalid).symm

theorem compiled?_matchers {spec : RuleSpec} {compiled : CompiledRule}
    (found : spec.compiled? config compiler = some compiled) :
    compiled.matchers = spec.matchers config.delimiter config.library compiler := by
  rw [compiled?, compile] at found
  split at found
  · cases found
    rfl
  · cases found

theorem refusals_eq_nil_iff (spec : RuleSpec) (source : String) (index : Nat) (delimiter : Delimiter)
    (library : Library) :
    refusals (spec.compile source index delimiter library compiler) = [] ↔
      (spec.compile source index delimiter library compiler).isOk = true := by
  rw [compile]
  split
  next => exact ⟨fun _ => rfl, fun _ => rfl⟩
  next some =>
    constructor
    · intro none
      exact absurd (List.map_eq_nil_iff.mp none) some
    · intro accepted
      cases accepted

theorem mem_matchers {spec : RuleSpec} {delimiter : Delimiter} {library : Library}
    {entry : String × Matcher} (member : entry ∈ spec.matchers delimiter library compiler) :
    compiler.compile entry.1 delimiter library = .ok entry.2 := by
  obtain ⟨pattern, _, found⟩ := List.mem_filterMap.mp member
  cases result : compiler.compile pattern delimiter library with
  | ok matcher =>
    rw [result] at found
    cases found
    exact result
  | error error =>
    rw [result] at found
    cases found

end RuleSpec

namespace RuleBook

theorem build_rules (source : String) (entries : List (Nat × RuleSpec)) (config : TranslationConfig)
    (known : List Issue) (strict : Option Bool) (compiler : PatternCompiler) :
    (build source entries config known strict compiler).rules =
      entries.filterMap fun entry => entry.2.compiled? config compiler := by
  rw [build, List.filterMap_map]
  exact congrArg (entries.filterMap ·) (funext fun entry => entry.2.compile_toOption source entry.1)

end RuleBook

namespace Translator

theorem load_inline_rules (files : FileSystem) (rules : List RuleSpec) (config : TranslationConfig)
    (strict : Option Bool) (environment : Environment) (compiler : PatternCompiler) :
    (load files (.inline rules config) strict environment compiler).book.rules =
      rules.filterMap (·.compiled? config compiler) := by
  change (RuleBook.build _ (rules.zipIdx.map fun entry => (entry.2, entry.1)) config _ strict
    compiler).rules = _
  rw [RuleBook.build_rules, List.filterMap_map]
  conv => rhs; rw [← List.zipIdx_map_fst 0 rules, List.filterMap_map]
  rfl

end Translator

end TextScenario
