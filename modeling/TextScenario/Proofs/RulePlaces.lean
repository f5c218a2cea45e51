import Mathlib.Data.List.Dedup
import TextScenario.Proofs.ConfigurationCheck
import TextScenario.Proofs.PatternMeaning
import TextScenario.Proofs.RuleCandidates

/-! Places in a list of rules. Each place either gives the book its next rule or is named by issues, and
a rule that is in the book has all that a rule must have. -/

namespace TextScenario

private theorem mem_sortedDistinct {name : String} {names : List String} :
    name ∈ sortedDistinct names ↔ name ∈ names := by
  rw [sortedDistinct, Json.mem_names_iff, Json.lookup_sortFields_map (fun _ => ())]
  split
  next listed => exact iff_of_true rfl listed
  next absent => exact iff_of_false nofun absent

private theorem Text.trimmed_trimmed (text : String) : trimmed (trimmed text) = trimmed text := by
  rw [trimmed, trimmed, String.toList_ofList, trim_trim]

private theorem isBlankText_trimmed (text : String) : isBlankText (Text.trimmed text) = isBlankText text := by
  rw [isBlankText, isBlankText, Text.trimmed, String.toList_ofList, Text.trim_trim]

/-- The place of the rule that an issue is about, if it is about one. -/
def Issue.place? (issue : Issue) : Option Nat :=
  issue.rule.map (·.1)

def RuleBook.faultyPlaces (book : RuleBook) : List Nat :=
  book.issues.filterMap Issue.place?

namespace RuleSpec

/-- What a rule that was made from a spec has, if it is in use. -/
structure Accepted (spec : RuleSpec) (config : TranslationConfig) (compiled : CompiledRule) : Prop where
  rule : compiled.rule = spec.rule
  nonempty : spec.patterns ≠ []
  matched : compiled.matchers.map (·.1) = spec.patterns
  compiles : ∀ entry ∈ compiled.matchers,
    PatternCompiler.regular.compile entry.1 config.delimiter config.library = .ok entry.2
  distinct : ∀ pattern ∈ spec.patterns, (Pattern.placeholders pattern).Nodup
  named : isBlankText compiled.rule.name = false
  trimmed : Text.trimmed compiled.rule.name = compiled.rule.name
  filled : isBlankText compiled.rule.template = false
  captured : ∀ name ∈ compiled.rule.required, ∃ pattern ∈ spec.patterns,
    name ∈ Pattern.placeholders pattern

variable {spec : RuleSpec} {config : TranslationConfig} {source : String} {index : Nat}

private theorem written_of_all {text : Option String} (written : ¬ text.all isBlankText = true) :
    isBlankText (text.getD "") = false := by
  cases text with
  | none => exact absurd rfl written
  | some own => exact Bool.eq_false_iff.mpr written

theorem problems_eq_nil (clean : spec.problems = []) :
    isBlankText (spec.name.getD "") = false ∧ spec.patterns ≠ [] ∧
      isBlankText (spec.template.getD "") = false ∧
        ∀ name ∈ spec.required, ∃ pattern ∈ spec.patterns, name ∈ Pattern.placeholders pattern := by
  simp only [problems, List.append_eq_nil_iff, List.map_eq_nil_iff, List.filter_eq_nil_iff,
    ite_eq_right_iff, List.cons_ne_self, imp_false, List.isEmpty_iff] at clean
  obtain ⟨⟨⟨name, patterns⟩, template⟩, captured⟩ := clean
  refine ⟨written_of_all name, patterns, written_of_all template, ?_⟩
  intro parameter required
  simpa using captured parameter required

private theorem compile_accepted {compiled : CompiledRule}
    (accepted : spec.compile source index config.delimiter config.library .regular = .ok compiled) :
    spec.Accepted config compiled := by
  rw [compile] at accepted
  split at accepted
  next clean =>
    cases accepted
    obtain ⟨problems, failures⟩ := List.append_eq_nil_iff.mp clean
    obtain ⟨name, patterns, template, captured⟩ := problems_eq_nil problems
    have matched := spec.matchers_declared config.delimiter config.library .regular failures
    have compiles {entry : String × Matcher}
        (member : entry ∈ spec.matchers config.delimiter config.library .regular) :=
      mem_matchers member
    exact
      { rule := rfl
        nonempty := patterns
        matched
        compiles := fun entry member => compiles member
        distinct := by
          intro pattern member
          obtain ⟨entry, inside, rfl⟩ := List.mem_map.mp (matched ▸ member)
          exact Pattern.placeholders_nodup (Pattern.check_of_compile (compiles inside))
        named := (isBlankText_trimmed _).trans name
        trimmed := Text.trimmed_trimmed _
        filled := template
        captured := fun name member => captured name (mem_sortedDistinct.mp member) }
  next => cases accepted

private theorem compile_refused {issues : List Issue}
    (refused : spec.compile source index config.delimiter config.library .regular = .error issues) :
    issues ≠ [] ∧ ∀ issue ∈ issues, issue.place? = some index := by
  rw [compile] at refused
  split at refused
  next => cases refused
  next some =>
    cases refused
    refine ⟨mt List.map_eq_nil_iff.mp some, ?_⟩
    intro issue member
    obtain ⟨message, -, rfl⟩ := List.mem_map.mp member
    rfl

end RuleSpec

namespace Configuration

/-- What becomes of an element of a list of rules: a rule, or issues. -/
def outcomeOf (source : String) (config : TranslationConfig) (element : Yaml.Value × Nat) :
    Except (List Issue) CompiledRule :=
  match entryOf source element.2 element.1 with
  | .ok entry => entry.2.compile source entry.1 config.delimiter config.library .regular
  | .error issue => .error [issue]

variable {source : String} {config : TranslationConfig} {element : Yaml.Value × Nat}

private theorem entryOf_ok {index : Nat} {value : Yaml.Value} {entry : Nat × RuleSpec}
    (read : entryOf source index value = .ok entry) :
    entry.1 = index ∧ RuleSpec.ofValue? value = some entry.2 := by
  rw [entryOf] at read
  split at read
  next => cases read
  next spec _ decoded =>
    cases read
    exact ⟨rfl, decoded⟩
  next => cases read

private theorem entryOf_error {index : Nat} {value : Yaml.Value} {issue : Issue}
    (failed : entryOf source index value = .error issue) : issue.place? = some index := by
  rw [entryOf] at failed
  split at failed
  next =>
    cases failed
    rfl
  next => cases failed
  next =>
    cases failed
    rfl

private theorem outcomeOf_accepted {compiled : CompiledRule}
    (accepted : outcomeOf source config element = .ok compiled) :
    ∃ spec, RuleSpec.ofValue? element.1 = some spec ∧ spec.Accepted config compiled := by
  rw [outcomeOf] at accepted
  split at accepted
  next entry read =>
    exact ⟨entry.2, (entryOf_ok read).2, RuleSpec.compile_accepted accepted⟩
  next => cases accepted

private theorem outcomeOf_refused {issues : List Issue}
    (refused : outcomeOf source config element = .error issues) :
    issues ≠ [] ∧ ∀ issue ∈ issues, issue.place? = some element.2 := by
  rw [outcomeOf] at refused
  split at refused
  next entry read =>
    obtain ⟨same, -⟩ := entryOf_ok read
    exact same ▸ RuleSpec.compile_refused refused
  next issue failed =>
    cases refused
    refine ⟨List.cons_ne_nil _ _, ?_⟩
    intro other member
    cases List.mem_singleton.mp member
    exact entryOf_error failed

def declared (files : FileSystem) (directory : String) : List Yaml.Value :=
  match readRules files (rulesPath directory) with
  | .ok (some document) => (listed? document).getD []
  | .ok none | .error _ => []

section Directory

variable (files : FileSystem) (directory : String)

/-- A listing has its entries and its issues from the list of rules, and another issue only if there is
no list. -/
theorem usedListing_of_declared :
    (usedListing files directory).entries = ((declared files directory).zipIdx.map fun element =>
      entryOf (rulesPath directory) element.2 element.1).filterMap Except.toOption ∧
    ∀ place, (∃ issue ∈ (usedListing files directory).issues, issue.place? = some place) ↔
      ∃ element ∈ (declared files directory).zipIdx, ∃ issue,
        entryOf (rulesPath directory) element.2 element.1 = .error issue ∧ issue.place? = some place := by
  rw [usedListing, declared]
  rcases readRules files (rulesPath directory) with error | (_ | document)
  · simp [listingOf, ConfigFileError.issue, Issue.place?]
  · simp [listingOf]
  · cases listed : listed? document with
    | none => simp [listingOf, Listing.ofDocument, listed, Issue.place?]
    | some values =>
      simp only [listingOf, Listing.ofDocument, listed, Option.getD_some]
      refine ⟨trivial, ?_⟩
      intro place
      constructor
      · rintro ⟨issue, member, named⟩
        obtain ⟨result, inside, shown⟩ := List.mem_filterMap.mp member
        obtain ⟨element, numbered, rfl⟩ := List.mem_map.mp inside
        refine ⟨element, numbered, issue, ?_, named⟩
        split at shown
        next found =>
          cases shown
          exact found
        next => cases shown
      · rintro ⟨element, numbered, issue, failed, named⟩
        refine ⟨issue, List.mem_filterMap.mpr ⟨_, List.mem_map_of_mem numbered, ?_⟩, named⟩
        simp only [failed]

private theorem book_rules_declared (strict : Option Bool) :
    ((RuleSource.directory directory).book files strict .regular).rules =
      (declared files directory).zipIdx.filterMap fun element =>
        (outcomeOf (rulesPath directory) (usedConfig files directory) element).toOption := by
  change (RuleBook.build _ (read files directory).listing.entries (read files directory).config _ _ _).rules = _
  rw [RuleBook.build_rules, read_eq, (usedListing_of_declared files directory).1, List.filterMap_map,
    List.filterMap_filterMap]
  refine congrArg (List.filterMap · _) (funext fun element => ?_)
  simp only [Function.comp_apply, outcomeOf]
  cases entryOf (rulesPath directory) element.2 element.1 with
  | ok entry => exact (entry.2.compile_toOption _ _).symm
  | error issue => rfl

private theorem coreIssues_placeless {issue : Issue} (member : issue ∈ coreIssues files directory) :
    issue.place? = none := by
  rw [coreIssues] at member
  cases read : readCore files (corePath directory) with
  | ok config =>
    rw [read] at member
    cases member
  | error error =>
    rw [read] at member
    cases List.mem_singleton.mp member
    rfl

private theorem mem_results {result : Except (List Issue) CompiledRule} :
    result ∈ results files directory ↔ ∃ element ∈ (declared files directory).zipIdx, ∃ entry,
      entryOf (rulesPath directory) element.2 element.1 = .ok entry ∧
        outcomeOf (rulesPath directory) (usedConfig files directory) element = result := by
  rw [results, (usedListing_of_declared files directory).1, List.mem_map]
  constructor
  · rintro ⟨entry, listed, rfl⟩
    obtain ⟨read, inside, accepted⟩ := List.mem_filterMap.mp listed
    obtain ⟨element, numbered, rfl⟩ := List.mem_map.mp inside
    cases found : entryOf (rulesPath directory) element.2 element.1 with
    | error error =>
      rw [found] at accepted
      cases accepted
    | ok own =>
      rw [found] at accepted
      cases accepted
      exact ⟨element, numbered, entry, found, by rw [outcomeOf, found]⟩
  · rintro ⟨element, numbered, entry, read, rfl⟩
    refine ⟨entry, List.mem_filterMap.mpr ⟨_, List.mem_map_of_mem numbered, ?_⟩, ?_⟩
    · rw [read]
      rfl
    · rw [outcomeOf, read]

private theorem mem_faultyPlaces (strict : Option Bool) (place : Nat) :
    place ∈ ((RuleSource.directory directory).book files strict .regular).faultyPlaces ↔
      ∃ value issues, (declared files directory)[place]? = some value ∧
        outcomeOf (rulesPath directory) (usedConfig files directory) (value, place) = .error issues := by
  have issues : ((RuleSource.directory directory).book files strict .regular).issues = _ :=
    book_issues files directory
  have unread := (usedListing_of_declared files directory).2 place
  rw [RuleBook.faultyPlaces, issues, List.mem_filterMap]
  constructor
  · rintro ⟨issue, member, named⟩
    rcases List.mem_append.mp member with known | refused
    · rcases List.mem_append.mp known with core | listed
      · rw [coreIssues_placeless files directory core] at named
        cases named
      · obtain ⟨⟨value, index⟩, numbered, other, failed, named⟩ := unread.mp ⟨issue, listed, named⟩
        rw [entryOf_error failed] at named
        cases named
        refine ⟨value, [other], List.mem_zipIdx_iff_getElem?.mp numbered, ?_⟩
        rw [outcomeOf, failed]
    · obtain ⟨result, inside, member⟩ := List.mem_flatMap.mp refused
      obtain ⟨⟨value, index⟩, numbered, -, -, outcome⟩ := (mem_results files directory).mp inside
      cases result with
      | ok compiled => cases member
      | error refusals =>
        rw [(outcomeOf_refused outcome).2 issue member] at named
        cases named
        exact ⟨value, refusals, List.mem_zipIdx_iff_getElem?.mp numbered, outcome⟩
  · rintro ⟨value, refusals, there, refused⟩
    obtain ⟨some, placed⟩ := outcomeOf_refused refused
    obtain ⟨issue, member⟩ := List.exists_mem_of_ne_nil _ some
    have numbered : (value, place) ∈ (declared files directory).zipIdx :=
      List.mem_zipIdx_iff_getElem?.mpr there
    cases read : entryOf (rulesPath directory) place value with
    | ok entry =>
      have result := (mem_results files directory).mpr ⟨_, numbered, entry, read, refused⟩
      exact ⟨issue, List.mem_append_right _ (List.mem_flatMap.mpr ⟨_, result, member⟩),
        placed issue member⟩
    | error failure =>
      obtain ⟨issue, listed, named⟩ :=
        unread.mpr ⟨_, numbered, failure, read, entryOf_error read⟩
      exact ⟨issue, List.mem_append_left _ (List.mem_append_right _ listed), named⟩

/-- How the places of a list are divided between the rules of a book and its issues. -/
structure Divides (book : RuleBook) (config : TranslationConfig) (rules : List Yaml.Value)
    (places : List Nat) : Prop where
  ordered : places.Pairwise (· < ·)
  kept : List.Forall₂
    (fun place compiled => ∃ value spec, rules[place]? = some value ∧
      RuleSpec.ofValue? value = some spec ∧ spec.Accepted config compiled)
    places book.rules
  whole : ∀ place, place < rules.length ↔ place ∈ places ∨ place ∈ book.faultyPlaces
  apart : ∀ place ∈ places, place ∉ book.faultyPlaces

/-- Every place belongs to a rule or to an issue, so that rules and places of issues add up. -/
theorem Divides.length {book : RuleBook} {config : TranslationConfig} {rules : List Yaml.Value}
    {places : List Nat} (divides : Divides book config rules places) :
    book.rules.length + book.faultyPlaces.dedup.length = rules.length := by
  have once : (places ++ book.faultyPlaces.dedup).Nodup := by
    refine List.nodup_append.mpr ⟨divides.ordered.imp Nat.ne_of_lt, List.nodup_dedup _, ?_⟩
    rintro place accepted other faulty rfl
    exact divides.apart place accepted (List.mem_dedup.mp faulty)
  have all : (places ++ book.faultyPlaces.dedup).Perm (List.range rules.length) := by
    refine (List.perm_ext_iff_of_nodup once List.nodup_range).mpr fun place => ?_
    rw [List.mem_append, List.mem_dedup, List.mem_range, divides.whole]
  rw [← divides.kept.length_eq, ← List.length_append, all.length_eq, List.length_range]

def acceptedPlaces : List Nat :=
  ((declared files directory).zipIdx.filter fun element =>
    (outcomeOf (rulesPath directory) (usedConfig files directory) element).isOk).map (·.2)

private theorem mem_acceptedPlaces (place : Nat) :
    place ∈ acceptedPlaces files directory ↔
      ∃ value compiled, (declared files directory)[place]? = some value ∧
        outcomeOf (rulesPath directory) (usedConfig files directory) (value, place) = .ok compiled := by
  simp only [acceptedPlaces, List.mem_map, List.mem_filter, List.mem_zipIdx_iff_getElem?]
  constructor
  · rintro ⟨⟨value, index⟩, ⟨there, accepted⟩, rfl⟩
    cases result : outcomeOf (rulesPath directory) (usedConfig files directory) (value, index) with
    | ok compiled => exact ⟨value, compiled, there, result⟩
    | error issues =>
      rw [result] at accepted
      cases accepted
  · rintro ⟨value, compiled, there, result⟩
    exact ⟨(value, place), ⟨there, by rw [result]; rfl⟩, rfl⟩

private theorem book_divides (strict : Option Bool) :
    Divides ((RuleSource.directory directory).book files strict .regular) (usedConfig files directory)
      (declared files directory) (acceptedPlaces files directory) where
  ordered := by
    rw [acceptedPlaces, List.pairwise_map]
    exact (RuleBook.zipIdx_ordered _).filter _
  kept := by
    rw [acceptedPlaces, book_rules_declared]
    have numbered : ∀ element ∈ (declared files directory).zipIdx,
        (declared files directory)[element.2]? = some element.1 :=
      fun element member => List.mem_zipIdx_iff_getElem?.mp member
    generalize (declared files directory).zipIdx = elements at numbered
    induction elements with
    | nil => exact .nil
    | cons element rest ih =>
      have later := ih fun other inside => numbered other (.tail _ inside)
      cases result : outcomeOf (rulesPath directory) (usedConfig files directory) element with
      | ok compiled =>
        rw [List.filter_cons_of_pos (by rw [result]; rfl),
          List.filterMap_cons_some (by rw [result]; rfl)]
        obtain ⟨spec, decoded, accepted⟩ := outcomeOf_accepted result
        exact .cons ⟨element.1, spec, numbered element (.head _), decoded, accepted⟩ later
      | error issues =>
        rw [List.filter_cons_of_neg (by rw [result]; exact Bool.false_ne_true),
          List.filterMap_cons_none (by rw [result]; rfl)]
        exact later
  whole place := by
    rw [mem_acceptedPlaces, mem_faultyPlaces]
    constructor
    · intro inside
      have there := List.getElem?_eq_getElem inside
      cases result : outcomeOf (rulesPath directory) (usedConfig files directory)
          ((declared files directory)[place], place) with
      | ok compiled => exact .inl ⟨_, compiled, there, result⟩
      | error issues => exact .inr ⟨_, issues, there, result⟩
    · rintro (⟨value, -, there, -⟩ | ⟨value, -, there, -⟩) <;>
        exact (List.getElem?_eq_some_iff.mp there).1
  apart place accepted faulty := by
    obtain ⟨value, compiled, there, result⟩ := (mem_acceptedPlaces files directory place).mp accepted
    obtain ⟨other, issues, again, failed⟩ := (mem_faultyPlaces files directory strict place).mp faulty
    rw [there] at again
    cases again
    rw [result] at failed
    cases failed

/-- Every declared rule is either in use, in its order and with all that a rule must have, or named by
issues, whatever the core file says. So the rules in use and the places of issues add up to the rules
that are declared. -/
theorem load_divides (strict : Option Bool) (environment : Environment) :
    let book := (Translator.load files (.directory directory) strict environment).book
    let rules := declared files directory
    (∃ places, Divides book (usedConfig files directory) rules places) ∧
      book.rules.length + book.faultyPlaces.dedup.length = rules.length := by
  intro book rules
  have divides : Divides book (usedConfig files directory) rules (acceptedPlaces files directory) :=
    book_divides files directory strict
  exact ⟨⟨_, divides⟩, divides.length⟩

end Directory

end Configuration

end TextScenario
