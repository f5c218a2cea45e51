import Mathlib.Data.List.Find
import TextScenario.Proofs.RuleBooks

/-! Candidates for a text. They are all declared patterns whose matchers accept it, in order of
precedence, and a translation follows the first of them. -/

namespace TextScenario

/-- Asking whether a text is accepted gives the same answer as asking what is captured. -/
def Matcher.Agreeing (matcher : Matcher) : Prop :=
  ∀ input, matcher.accepts input = (matcher.captures? input).isSome

def PatternCompiler.Agreeing (compiler : PatternCompiler) : Prop :=
  ∀ pattern delimiter library matcher,
    compiler.compile pattern delimiter library = .ok matcher → matcher.Agreeing

private theorem Matcher.ofRegex_agreeing (expression : String) (regex : Regex) :
    (ofRegex expression regex).Agreeing :=
  fun _ => Option.isSome_map.symm

private theorem PatternCompiler.regular_agreeing [Regex.Engine] : regular.Agreeing := by
  intro pattern delimiter library matcher compiled
  simp only [regular, bind, Except.bind] at compiled
  split at compiled
  next => cases compiled
  next =>
    split at compiled
    next regex _ =>
      cases compiled
      exact Matcher.ofRegex_agreeing _ regex
    next => cases compiled

namespace RuleBook

def Agreeing (book : RuleBook) : Prop :=
  ∀ compiled ∈ book.rules, ∀ entry ∈ compiled.matchers, entry.2.Agreeing

private theorem book_agreeing (source : RuleSource) (files : FileSystem) (strict : Option Bool)
    {compiler : PatternCompiler} (agreeing : compiler.Agreeing) :
    (source.book files strict compiler).Agreeing := by
  intro compiled member entry matched
  rw [RuleSource.book, build_rules] at member
  obtain ⟨_, _, found⟩ := List.mem_filterMap.mp member
  rw [RuleSpec.compiled?_matchers found] at matched
  exact agreeing _ _ _ _ (RuleSpec.mem_matchers matched)

/-- A candidate is declared at a place, which is the number of a rule and the number of a pattern in
that rule. Its matcher is the one of that pattern. -/
inductive Declares (book : RuleBook) : Nat × Nat → Candidate → Matcher → Prop
  | pattern {rule pattern : Nat} {compiled : CompiledRule} {text : String} {matcher : Matcher}
      (numbered : book.rules[rule]? = some compiled)
      (declared : compiled.rule.patterns[pattern]? = some text)
      (matched : compiled.matchers[pattern]? = some (text, matcher)) :
      Declares book (rule, pattern)
        { rule := compiled.rule.name, pattern := text, expression := matcher.expression } matcher

/-- A list of all candidates for a line, each at its place. Places are in order of rule and then of
pattern, so that none occurs twice. -/
structure Lists (book : RuleBook) (line : String) (listed : List ((Nat × Nat) × Candidate)) :
    Prop where
  ordered : (listed.map (·.1)).Pairwise (Prod.Lex (· < ·) (· < ·))
  exact : ∀ place candidate, (place, candidate) ∈ listed ↔
    ∃ matcher, book.Declares place candidate matcher ∧ matcher.accepts line = true

/-- The candidates for a line in one numbered rule, at their places. -/
def listedIn (line : String) (numbered : CompiledRule × Nat) : List ((Nat × Nat) × Candidate) :=
  (numbered.1.matchers.zipIdx.filter fun entry => entry.1.2.accepts line).map fun entry =>
    ((numbered.2, entry.2),
      { rule := numbered.1.rule.name, pattern := entry.1.1, expression := entry.1.2.expression })

def listed (book : RuleBook) (line : String) : List ((Nat × Nat) × Candidate) :=
  book.rules.zipIdx.flatMap (listedIn line)

theorem zipIdx_ordered {α : Type} (items : List α) :
    items.zipIdx.Pairwise fun earlier later => earlier.2 < later.2 := by
  rw [← List.pairwise_map, List.zipIdx_map_snd]
  exact List.pairwise_lt_range' 1

private theorem listed_ordered (book : RuleBook) (line : String) :
    ((book.listed line).map (·.1)).Pairwise (Prod.Lex (· < ·) (· < ·)) := by
  rw [listed, List.map_flatMap, List.pairwise_flatMap]
  constructor
  · intro numbered _
    rw [listedIn, List.map_map, List.pairwise_map]
    refine ((zipIdx_ordered _).filter _).imp ?_
    intro earlier later before
    exact Prod.Lex.right _ before
  · apply (zipIdx_ordered book.rules).imp
    intro earlier later before place member other last
    simp only [listedIn, List.map_map, List.mem_map] at member last
    obtain ⟨_, _, rfl⟩ := member
    obtain ⟨_, _, rfl⟩ := last
    exact Prod.Lex.left _ _ before

private theorem mem_listed (book : RuleBook) (line : String) (place : Nat × Nat) (candidate : Candidate) :
    (place, candidate) ∈ book.listed line ↔
      ∃ matcher, book.Declares place candidate matcher ∧ matcher.accepts line = true := by
  constructor
  · intro member
    obtain ⟨⟨compiled, rule⟩, numbered, member⟩ := List.mem_flatMap.mp member
    obtain ⟨⟨⟨text, matcher⟩, pattern⟩, found, equal⟩ := List.mem_map.mp member
    obtain ⟨entry, accepted⟩ := List.mem_filter.mp found
    cases equal
    have matched := List.mk_mem_zipIdx_iff_getElem?.mp entry
    refine ⟨matcher, .pattern (List.mk_mem_zipIdx_iff_getElem?.mp numbered) ?_ matched, accepted⟩
    rw [← compiled.declared, List.getElem?_map, matched]
    rfl
  · rintro ⟨matcher, ⟨numbered, declared, matched⟩, accepted⟩
    apply List.mem_flatMap.mpr
    refine ⟨_, List.mk_mem_zipIdx_iff_getElem?.mpr numbered, ?_⟩
    apply List.mem_map.mpr
    refine ⟨_, List.mem_filter.mpr ⟨List.mk_mem_zipIdx_iff_getElem?.mpr matched, accepted⟩, rfl⟩

private theorem listed_candidates (book : RuleBook) (text : String) :
    (book.listed (Text.trimmed text)).map (·.2) = book.candidates text := by
  have inRule (numbered : CompiledRule × Nat) :
      (listedIn (Text.trimmed text) numbered).map (·.2) =
        (numbered.1.matchers.filter fun entry => entry.2.accepts (Text.trimmed text)).map fun entry =>
          { rule := numbered.1.rule.name, pattern := entry.1, expression := entry.2.expression } := by
    conv => rhs; rw [← List.zipIdx_map_fst 0 numbered.1.matchers, List.filter_map, List.map_map]
    rw [listedIn, List.map_map]
    rfl
  conv => rhs; rw [candidates, ← List.zipIdx_map_fst 0 book.rules, List.flatMap_map]
  rw [listed, List.map_flatMap]
  simp only [inRule]

/-- In one rule the first candidate names the pattern that the rule is found with. -/
theorem candidate_head? {compiled : CompiledRule}
    (agreeing : ∀ entry ∈ compiled.matchers, entry.2.Agreeing) (line : String) :
    ((compiled.matchers.filter fun (_, matcher) => matcher.accepts line).head?).map (·.1) =
      (firstMatch? compiled line).map (·.pattern) := by
  rw [List.head?_filter, List.find?_congr fun entry member => agreeing entry member line,
    List.find?_eq_findSome?_guard, List.map_findSome?, firstMatch?, List.map_findSome?]
  refine congrArg (List.findSome? · compiled.matchers) (funext fun entry => ?_)
  cases captured : entry.2.captures? line <;> simp [Option.guard, captured]

private theorem firstMatch?_rule {compiled : CompiledRule} {line : String} {found : RuleMatch}
    (first : firstMatch? compiled line = some found) : found.rule = compiled.rule := by
  obtain ⟨entry, _, mapped⟩ := List.exists_of_findSome?_eq_some first
  obtain ⟨parameters, _, rfl⟩ := Option.map_eq_some_iff.mp mapped
  rfl

private theorem candidates_head? {book : RuleBook} (agreeing : book.Agreeing) (text : String) :
    (book.candidates text).head?.map (fun candidate => (candidate.rule, candidate.pattern)) =
      (book.find? text).map fun found => (found.rule.name, found.pattern) := by
  rw [candidates, List.head?_flatMap, find?]
  rw [Agreeing] at agreeing
  generalize book.rules = rules at agreeing ⊢
  induction rules with
  | nil => rfl
  | cons compiled rest ih =>
    obtain ⟨here, others⟩ := List.forall_mem_cons.mp agreeing
    have head := candidate_head? here (Text.trimmed text)
    rw [List.findSome?_cons, List.findSome?_cons, List.head?_map]
    cases found : firstMatch? compiled (Text.trimmed text) with
    | none =>
      rw [found, Option.map_none, Option.map_eq_none_iff] at head
      rw [head]
      exact ih others
    | some first =>
      rw [found] at head
      obtain ⟨entry, accepted, named⟩ := Option.map_eq_some_iff.mp head
      rw [accepted]
      simp [named, firstMatch?_rule found]

end RuleBook

/-- What a translation comes to if a candidate is the first. Its rule and pattern are those of the
candidate, and a strict book refuses it for this rule exactly if parameters are missing. -/
def Candidate.Decides (candidate : Candidate) (strict : Bool) :
    Except MissingParameters Translation → Prop
  | .ok (.rules translation) =>
    translation.rule = candidate.rule ∧ translation.pattern = candidate.pattern ∧
      (strict = true → translation.missing = [])
  | .ok (.agent _ _) => False
  | .error error => strict = true ∧ error.rule = candidate.rule ∧ error.missing ≠ []

private theorem RuleBook.translate_decides {book : RuleBook} {action : String} {found : RuleMatch}
    (first : book.find? action = some found) {candidate : Candidate}
    (rule : found.rule.name = candidate.rule) (pattern : found.pattern = candidate.pattern)
    (source : String) : candidate.Decides book.strict (book.translate source action) := by
  simp only [translate, first]
  split
  next refused =>
    simp only [Bool.and_eq_true, Bool.not_eq_true', List.isEmpty_eq_false_iff] at refused
    exact ⟨refused.2, rule, refused.1⟩
  next accepted =>
    refine ⟨rule, pattern, fun strict => ?_⟩
    simpa [strict] using accepted

namespace Translator

/-- How the translation of a text follows its candidates. These are all listed in order of precedence;
a text without any goes to the agent, and the first of them decides every other. -/
structure FollowsCandidates (translator : Translator) (text : String) : Prop where
  listed : ∃ listed,
    translator.book.Lists (Text.trimmed (translator.environment.expand text)) listed ∧
      translator.candidates text = listed.map (·.2)
  agent : (∃ action source, translator.translate text = .ok (.agent action source)) ↔
    translator.candidates text = []
  first : ∀ candidate rest, translator.candidates text = candidate :: rest →
    candidate.Decides translator.book.strict (translator.translate text)

/-- Every translator whose matchers agree with themselves follows the candidates of every text. -/
theorem translate_candidates (translator : Translator) (agreeing : translator.book.Agreeing)
    (text : String) : translator.FollowsCandidates text := by
  let action := translator.environment.expand text
  have head := RuleBook.candidates_head? agreeing action
  have decided (candidate : Candidate) (rest : List Candidate)
      (first : translator.book.candidates action = candidate :: rest) :
      candidate.Decides translator.book.strict (translator.book.translate text action) := by
    rw [first] at head
    obtain ⟨found, search, equal⟩ := Option.map_eq_some_iff.mp head.symm
    obtain ⟨rule, pattern⟩ := Prod.mk.inj equal
    exact RuleBook.translate_decides search rule pattern text
  refine ⟨⟨_, ⟨translator.book.listed_ordered _, translator.book.mem_listed _⟩,
    (translator.book.listed_candidates action).symm⟩, ⟨?_, ?_⟩, decided⟩
  · rintro ⟨other, source, agent⟩
    cases candidates : translator.candidates text with
    | nil => rfl
    | cons candidate rest =>
      have decision := decided candidate rest candidates
      rw [show translator.book.translate text action = _ from agent] at decision
      exact decision.elim
  · intro none
    rw [show translator.book.candidates action = [] from none] at head
    have unfound := Option.map_eq_none_iff.mp head.symm
    refine ⟨action, text, ?_⟩
    rw [translate, RuleBook.translate, unfound]

/-- Two rules that both accept a click on a button. The first is refused without its value. -/
def clicking : Translator :=
  load {}
    (.inline
      [{ name := some "click"
         patterns := ["click \x7btarget\x7d", "fill \x7btarget\x7d with \x7bvalue\x7d"]
         template := some "act: click \x7btarget\x7d \x7bvalue\x7d"
         required := ["value"] },
       { name := some "press"
         patterns := ["press \x7btarget\x7d", "click \x7btarget\x7d button"]
         template := some "act: press \x7btarget\x7d" }]
      {})
    (some true) ⟨[("WHAT", "save")]⟩

theorem translate_candidates_clicking :
    clicking.book.Agreeing ∧
      clicking.candidates " click %WHAT% button" =
        [⟨"click", "click \x7btarget\x7d", "^(?:click (?P<target>.+?))$"⟩,
         ⟨"press", "click \x7btarget\x7d button", "^(?:click (?P<target>.+?) button)$"⟩] ∧
      clicking.FollowsCandidates " click %WHAT% button" := by
  have agreeing : clicking.book.Agreeing :=
    RuleBook.book_agreeing _ {} (some true) PatternCompiler.regular_agreeing
  exact ⟨agreeing, by decide +kernel, clicking.translate_candidates agreeing _⟩

end Translator

end TextScenario
