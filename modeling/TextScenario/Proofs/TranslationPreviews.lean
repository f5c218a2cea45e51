import Mathlib.Data.List.Basic
import Mathlib.Data.List.Induction
import TextScenario.Proofs.ParsedSteps
import TextScenario.Proofs.ScenarioParts

/-! A preview of a line, beside the translation of the step that is read from it. The preview takes the
line as it stands, and the reader cuts off its comment and takes the backslashes off its escaped marks.
So the two agree for all rules exactly if the reader finds nothing to take away. -/

namespace TextScenario

/-- What a translation sends, and by which rule; the texts that it was made from are left out. -/
structure TranslationSummary where
  engine : String
  rule : Option String
  pattern : Option String
  parameters : Option Parameters
  kind : ActionKind
  code : String
  deriving DecidableEq

def Translation.summary (translation : Translation) : TranslationSummary :=
  let found? : Option RuleTranslation :=
    match translation with
    | .rules found => some found
    | .agent _ _ => none
  { engine := translation.engine
    rule := found?.map (·.rule)
    pattern := found?.map (·.pattern)
    parameters := found?.map (·.parameters)
    kind := translation.kind
    code := translation.code }

private theorem Translation.withSource_summary (source : String) (translation : Translation) :
    (translation.withSource source).summary = translation.summary := by
  cases translation <;> rfl

private theorem RuleBook.translate_summary (book : RuleBook) (source other action : String) :
    (book.translate source action).map Translation.summary =
      (book.translate other action).map Translation.summary := by
  rw [book.translate_withSource other source]
  cases book.translate other action with
  | error error => rfl
  | ok translation => exact congrArg Except.ok (translation.withSource_summary source)

namespace Scenario
open Text

/-- Whether a line has no comment to cut off and no mark to take a backslash from: a `#` in it is its
last character and has no backslash before it. -/
def IsPlain (line : List Char) : Prop :=
  ∀ before after, line = before ++ '#' :: after → after = [] ∧ before.getLast? ≠ some '\\'

theorem isPlain_cons {char : Char} {rest : List Char} (noMark : char ≠ '#')
    (noEscape : char = '\\' → rest.head? ≠ some '#') : IsPlain (char :: rest) ↔ IsPlain rest := by
  constructor
  · intro plain before after same
    obtain ⟨ended, unescaped⟩ := plain (char :: before) after (by rw [same, List.cons_append])
    refine ⟨ended, ?_⟩
    cases before with
    | nil => simp
    | cons first before => simpa using unescaped
  · intro plain before after same
    cases before with
    | nil => exact absurd (List.cons.inj same).1 noMark
    | cons first before =>
      obtain ⟨rfl, rfl⟩ := List.cons.inj same
      obtain ⟨ended, unescaped⟩ := plain before after rfl
      refine ⟨ended, ?_⟩
      cases before with
      | nil =>
        intro escaped
        exact noEscape (by simpa using escaped) rfl
      | cons second before => simpa using unescaped

theorem splitComment_eq_self_iff {line : List Char}
    (solid : ∀ char ∈ line.getLast?, isBlank char = false) :
    (splitComment line).1 = line ↔ IsPlain line := by
  fun_induction splitComment line with
  | case1 =>
    refine iff_of_true rfl ?_
    intro before after same
    simp at same
  | case2 rest action comment split ih =>
    refine iff_of_false (by simp) ?_
    intro plain
    exact (plain ['\\'] rest rfl).2 rfl
  | case3 rest blank =>
    -- the mark is the last character, because only blanks could come after it
    have ended : rest = [] := by
      rcases List.eq_nil_or_concat' rest with empty | ⟨kept, last, rfl⟩
      · exact empty
      · have ends : ('#' :: (kept ++ [last])).getLast? = some last := by
          rw [← List.cons_append]
          exact List.getLast?_concat
        exact absurd blank (trim_concat_solid kept (solid last ends))
    subst ended
    refine iff_of_true rfl ?_
    intro before after same
    cases before with
    | nil => exact ⟨(List.cons.inj same).2.symm, by simp⟩
    | cons first before => simp at same
  | case4 rest noted =>
    refine iff_of_false (by simp) ?_
    intro plain
    have ended := (plain [] rest rfl).1
    subst ended
    exact noted rfl
  | case5 char rest noEscape noMark action comment split ih =>
    have later : ∀ char ∈ rest.getLast?, isBlank char = false := by
      intro last member
      apply solid
      rw [List.getLast?_cons]
      simp [show rest.getLast? = some last from member]
    rw [isPlain_cons noMark, ← ih later, split]
    · simp
    · intro same first
      obtain ⟨others, rfl⟩ := List.head?_eq_some_iff.mp first
      exact noEscape others same rfl

section Lengths

variable (environment : Environment)

private theorem expandChars_mark (before after : List Char) :
    environment.expandChars (before ++ '#' :: after) =
      environment.expandChars before ++ '#' :: environment.expandChars after :=
  environment.expandChars_break (by decide +kernel) (by decide) before after

/-- What is taken away was there with variables put in, too, wherever the line stands. -/
theorem splitComment_shorter (line : List Char) :
    (splitComment line).1 = line ∨ ∀ before,
      (environment.expandChars (before ++ (splitComment line).1)).length <
        (environment.expandChars (before ++ line)).length := by
  fun_induction splitComment line with
  | case1 => exact .inl rfl
  | case2 rest action comment split ih =>
    refine .inr fun before => ?_
    have kept : (environment.expandChars action).length ≤ (environment.expandChars rest).length := by
      rw [split] at ih
      rcases ih with same | shorter
      · exact Nat.le_of_eq (congrArg (fun text => (environment.expandChars text).length) same)
      · exact Nat.le_of_lt (shorter [])
    have escaped : environment.expandChars (before ++ '\\' :: '#' :: rest) =
        environment.expandChars before ++ '\\' :: '#' :: environment.expandChars rest := by
      rw [environment.expandChars_break (by decide +kernel) (by decide)]
      exact congrArg (environment.expandChars before ++ '\\' :: ·) (expandChars_mark environment [] rest)
    rw [expandChars_mark, escaped]
    simp only [List.length_append, List.length_cons]
    omega
  | case3 => exact .inl rfl
  | case4 rest noted =>
    refine .inr fun before => ?_
    rw [expandChars_mark, List.append_nil]
    simp only [List.length_append, List.length_cons]
    omega
  | case5 char rest _ _ action comment split ih =>
    rw [split] at ih
    rcases ih with same | shorter
    · exact .inl (congrArg (char :: ·) same)
    · refine .inr fun before => ?_
      have moved := shorter (before ++ [char])
      simpa using moved

private theorem expandChars_trimRight_length (text : List Char) :
    (environment.expandChars (trimRight text)).length ≤ (environment.expandChars text).length := by
  induction text using List.reverseRecOn with
  | nil => exact Nat.le_refl _
  | append_singleton text last ih =>
    cases blank : isBlank last with
    | false => exact Nat.le_of_eq (by rw [trimRight_solid text blank])
    | true =>
      have noSign : last ≠ '%' := by
        rintro rfl
        contradiction
      rw [trimRight_blank text blank, environment.expandChars_concat text noSign, List.length_append]
      omega

end Lengths

private theorem splitComment_head {line : List Char} (solid : ∀ char ∈ line.head?, isBlank char = false) :
    ∀ char ∈ (splitComment line).1.head?, isBlank char = false := by
  unfold splitComment
  split
  · simp
  · simp [isBlank]
  · split
    · simp [isBlank]
    · simp
  next char rest _ _ => simpa using solid

private theorem inlineComment_of_trimmed {line : List Char} (trimmed : trim line = line) :
    (inlineComment line).1 = trimRight (splitComment line).1 := by
  have solid := splitComment_head (trim_eq_self_iff.mp trimmed).1
  rw [inlineComment]
  change trim (splitComment line).1 = _
  rw [trim, trimLeft_eq_self_iff.mpr solid]

/-- The reader puts variables into the same text as the preview does exactly if the line is plain. -/
theorem expandChars_inlineComment_iff (environment : Environment) {line : List Char}
    (trimmed : trim line = line) :
    environment.expandChars (inlineComment line).1 = environment.expandChars line ↔ IsPlain line := by
  have ends := (trim_eq_self_iff.mp trimmed).2
  rw [← splitComment_eq_self_iff ends, inlineComment_of_trimmed trimmed]
  constructor
  · intro same
    rcases splitComment_shorter environment line with kept | shorter
    · exact kept
    · have cut := shorter []
      have length := expandChars_trimRight_length environment (splitComment line).1
      rw [same] at length
      exact absurd (Nat.lt_of_le_of_lt length cut) (Nat.lt_irrefl _)
  · intro kept
    rw [kept, trimRight_eq_self_iff.mpr ends]

private theorem parts_titled {line : List Char} (trimmed : trim line = line) :
    parts ["## T".toList, line] =
      [.line "## T".toList, if line = blockOpenMarker then .block [] else .line line] := by
  have title : trim "## T".toList = "## T".toList := by decide
  have other : "## T".toList ≠ blockOpenMarker := by decide
  rw [parts, title, if_neg other, parts, trimmed]
  split
  · simp [parts]
  · simp [parts]

/-- The step that a line is read as says what the line says before its comment, without the backslashes
before its marks and with variables put in. -/
theorem parse_line (environment : Environment) {line : String} (trimmed : trim line.toList = line.toList)
    (oneLine : '\n' ∉ line.toList) {case : Case} {step : Step}
    (parsed : parse environment ("## T\n" ++ line ++ "\n") = [case]) (alone : case.steps = [step])
    (single : step.isMultiline = false) :
    step.action = String.ofList (environment.expandChars (inlineComment line.toList).1) := by
  have written : ("## T\n" ++ line ++ "\n").toList =
      ["## T".toList, line.toList].flatMap (· ++ ['\n']) := by simp
  have cut : lines ("## T\n" ++ line ++ "\n").toList = ["## T".toList, line.toList] := by
    rw [written]
    refine lines_ended ?_ ?_
    · simpa using oneLine
    · simpa using getLast?_ne_return trimmed
  have opened : Draft.empty.takePart environment (.line "## T".toList) = Draft.empty.openCase "T" := rfl
  rw [parse_eq_foldl_parts, cut, parts_titled trimmed, List.foldl_cons, List.foldl_cons,
    List.foldl_nil, opened] at parsed
  split at parsed
  · -- a block that is never filled makes no step
    obtain ⟨rfl, -⟩ := List.cons.inj parsed
    cases alone
  next opens =>
    rw [Draft.takePart] at parsed
    have said := Line.of_ofTrimmed opens
    generalize Line.ofTrimmed line.toList = read at said parsed
    cases said with
    | blank =>
      obtain ⟨rfl, -⟩ := List.cons.inj parsed
      cases alone
    | title header name => cases name <;> cases parsed
    | comment _ _ note =>
      cases note <;>
        obtain ⟨rfl, -⟩ := List.cons.inj parsed <;>
        cases alone
    | separator => cases parsed
    | action nonempty first noSeparator =>
      have kept := environment.expandChars_ne_nil (inlineComment_ne_nil trimmed nonempty first)
      have filled : (environment.expandChars (inlineComment line.toList).1).isEmpty = false := by
        simpa using kept
      have added : (Draft.empty.openCase "T").take environment (.action line.toList) =
          (Draft.empty.openCase "T").addAction environment line.toList := rfl
      rw [added, Draft.addAction] at parsed
      simp only [filled, Bool.false_eq_true, if_false] at parsed
      obtain ⟨rfl, -⟩ := List.cons.inj parsed
      obtain ⟨rfl, -⟩ := List.cons.inj alone
      rfl

end Scenario

open Scenario

/-- A line that is read as a single step sends what its preview shows, under all rules that may be in
use, exactly if the line is plain. -/
theorem Translator.preview_iff_isPlain (environment : Environment) {line : String}
    (trimmed : Text.trim line.toList = line.toList) (oneLine : '\n' ∉ line.toList) {case : Case}
    {step : Step} (parsed : parse environment ("## T\n" ++ line ++ "\n") = [case])
    (alone : case.steps = [step]) (single : step.isMultiline = false) :
    (∀ translator : Translator, translator.environment = environment →
        (translator.translate line).map Translation.summary =
          (translator.translateExpanded step.action).map Translation.summary) ↔
      IsPlain line.toList := by
  have read := parse_line environment trimmed oneLine parsed alone single
  rw [← expandChars_inlineComment_iff environment trimmed]
  constructor
  · intro agree
    -- without rules a translation is the text that was translated
    have same := agree { source := .inline [] {}, environment } rfl
    have texts : environment.expand line = step.action := by
      have sent := congrArg (Except.map TranslationSummary.code) same
      injection sent
    rw [read, Environment.expand] at texts
    exact (String.ofList_injective texts).symm
  · rintro same translator rfl
    rw [Translator.translate, Translator.translateExpanded, read, same]
    exact translator.book.translate_summary _ _ _

private def clickedPage : Environment := ⟨[("WHAT", "item #3")]⟩

theorem preview_of_clickedPage :
    IsPlain "click %WHAT% #".toList ∧
      ∃ case step, parse clickedPage ("## T\n" ++ "click %WHAT% #" ++ "\n") = [case] ∧
        case.steps = [step] ∧ ∀ translator : Translator, translator.environment = clickedPage →
          (translator.translate "click %WHAT% #").map Translation.summary =
            (translator.translateExpanded step.action).map Translation.summary := by
  have trimmed : Text.trim "click %WHAT% #".toList = "click %WHAT% #".toList := by decide +kernel
  have parsed : parse clickedPage ("## T\n" ++ "click %WHAT% #" ++ "\n") =
      [{ name := "T", steps := [{ action := "click item #3 #" }] }] := by decide +kernel
  have plain : IsPlain "click %WHAT% #".toList :=
    (splitComment_eq_self_iff (Text.trim_eq_self_iff.mp trimmed).2).mp (by decide +kernel)
  refine ⟨plain, _, _, parsed, rfl, ?_⟩
  exact (Translator.preview_iff_isPlain clickedPage trimmed (by decide) parsed rfl rfl).mpr plain

/-- The preview of `click save # primary button` sends the comment, which the reader leaves out. -/
theorem preview_of_comment :
    let line := "click save # primary button"
    ∃ case step, Text.trim line.toList = line.toList ∧
      parse .empty ("## T\n" ++ line ++ "\n") = [case] ∧ case.steps = [step] ∧
      step.isMultiline = false ∧
      let translator : Translator := { source := .inline [] {} }
      (translator.translate line).map Translation.summary ≠
        (translator.translateExpanded step.action).map Translation.summary := by
  have parsed : parse .empty ("## T\n" ++ "click save # primary button" ++ "\n") =
      [{ name := "T", steps := [{ action := "click save", comment := some "primary button" }] }] := by
    decide +kernel
  refine ⟨_, _, by decide +kernel, parsed, rfl, rfl, ?_⟩
  intro translator same
  have sent := congrArg (Except.map TranslationSummary.code) same
  exact absurd sent (by decide +kernel)

end TextScenario
