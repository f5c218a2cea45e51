import Mathlib.Data.List.Forall2
import TextScenario.Proofs.EnvironmentValues
import TextScenario.Scenario.Part

/-! A text is read part by part, and every part of a case that is written as a step becomes one. The
exception is a line that begins with the separator and says more: it opens a case, and what it says
is lost. -/

namespace TextScenario.Scenario
open Text

/-- What is known of a line that `parts` gives. -/
def Part.Clean : Part → Prop
  | .line text => trim text = text ∧ text ≠ blockOpenMarker
  | .block _ => True

theorem parts_clean (lines : List (List Char)) : ∀ part ∈ parts lines, part.Clean := by
  fun_induction parts lines with
  | case1 => simp
  | case2 line rest opened ih =>
    intro part member
    rcases List.mem_cons.mp member with rfl | later
    · trivial
    · exact ih part later
  | case3 line rest other ih =>
    intro part member
    rcases List.mem_cons.mp member with rfl | later
    · exact ⟨trim_trim line, other⟩
    · exact ih part later

theorem Part.head_of_isHeader {text : List Char} (header : (Part.line text).isHeader = true) :
    text.head? = some '#' := by
  rw [isHeader, Bool.and_eq_true, List.isPrefixOf_iff_prefix] at header
  obtain ⟨rest, rfl⟩ := header.1
  rfl

private theorem Part.of_hash {text : List Char} (first : text.head? = some '#') :
    (Part.line text).isStep = false ∧ (Part.line text).isTrailedSeparator = false := by
  obtain ⟨rest, rfl⟩ := List.head?_eq_some_iff.mp first
  exact ⟨by simp [isStep, isComment], rfl⟩

private theorem Part.of_separator {text : List Char} (begun : separatorMarker <+: text) :
    (Part.line text).isStep = (Part.line text).isTrailedSeparator := by
  obtain ⟨rest, rfl⟩ := begun
  have noHeader : (Part.line ('-' :: '-' :: '-' :: rest)).isHeader = false := rfl
  simp [isStep, isTrailedSeparator, noHeader, isComment, separatorMarker]

private theorem Part.of_action {text : List Char} (nonempty : text ≠ []) (first : text.head? ≠ some '#')
    (noSeparator : ¬ separatorMarker <+: text) :
    (Part.line text).isStep = true ∧ (Part.line text).isTrailedSeparator = false := by
  have noHeader : (Part.line text).isHeader ≠ true := fun header => first (head_of_isHeader header)
  have other : text ≠ separatorMarker := by
    rintro rfl
    exact noSeparator List.prefix_rfl
  have unmarked : separatorMarker.isPrefixOf text ≠ true := by
    rwa [ne_eq, List.isPrefixOf_iff_prefix]
  simp only [Bool.not_eq_true] at noHeader unmarked
  exact ⟨by simp [isStep, isComment, nonempty, noHeader, first, other],
    by simp [isTrailedSeparator, unmarked]⟩

/-- How a line outside blocks is taken, by what stands in it. -/
inductive Line.Of (text : List Char) : Line → Prop
  | blank (empty : text = []) : Of text .blank
  | title (header : (Part.line text).isHeader = true) (name : List Char) : Of text (.title name)
  | comment (other : (Part.line text).isHeader = false) (first : text.head? = some '#')
      (note : List Char) : Of text (.comment note)
  | separator (begun : separatorMarker <+: text) : Of text .separator
  | action (nonempty : text ≠ []) (first : text.head? ≠ some '#')
      (noSeparator : ¬ separatorMarker <+: text) : Of text (.action text)

theorem caseTitle?_isSome (text : List Char) :
    (caseTitle? text).isSome = (Part.line text).isHeader := by
  unfold caseTitle?
  split
  · rfl
  next char rest =>
    cases blank : isBlank char <;> simp [Part.isHeader, caseMarker, blank]
  next bare titled =>
    cases header : (Part.line text).isHeader with
    | false => rfl
    | true =>
      rw [Part.isHeader, Bool.and_eq_true, List.isPrefixOf_iff_prefix] at header
      obtain ⟨rest, rfl⟩ := header.1
      cases rest with
      | nil => exact absurd rfl bare
      | cons char rest => exact absurd rfl (titled char rest)

theorem Line.of_ofTrimmed {text : List Char} (noMarker : text ≠ blockOpenMarker) :
    Line.Of text (.ofTrimmed text) := by
  unfold ofTrimmed
  rw [if_neg noMarker]
  split
  next empty => exact .blank empty
  next nonempty =>
    have titled := caseTitle?_isSome text
    split
    next name found =>
      rw [found] at titled
      exact .title titled.symm name
    next missing =>
      rw [missing] at titled
      split
      next rest => exact .comment titled.symm rfl _
      next rest => exact .separator (List.prefix_append separatorMarker rest)
      next noComment noSeparator =>
        refine .action nonempty ?_ ?_
        · intro first
          obtain ⟨rest, same⟩ := List.head?_eq_some_iff.mp first
          exact noComment rest same
        · rintro ⟨rest, same⟩
          exact noSeparator rest same.symm

/-- The action of a step line begins with a character that is no blank. -/
theorem inlineComment_ne_nil {text : List Char} (trimmed : trim text = text) (nonempty : text ≠ [])
    (first : text.head? ≠ some '#') : (inlineComment text).1 ≠ [] := by
  have solid := (trim_eq_self_iff.mp trimmed).1
  have kept : ∃ char rest, (splitComment text).1 = char :: rest ∧ isBlank char = false := by
    unfold splitComment
    split
    · exact absurd rfl nonempty
    · exact ⟨_, _, rfl, by decide⟩
    · exact absurd rfl first
    next char rest _ _ => exact ⟨char, _, rfl, solid char rfl⟩
  obtain ⟨char, rest, split, solid⟩ := kept
  rw [inlineComment]
  change trim (splitComment text).1 ≠ []
  rw [split]
  exact trim_ne_nil (by simp) (by simpa using solid)

namespace Draft
variable (environment : Environment)

/-- Takes a part as a whole. -/
def takePart (draft : Draft) : Part → Draft
  | .line text => draft.take environment (.ofTrimmed text)
  | .block lines => draft.closeBlock (lines.map dropReturn)

private theorem addComment_block (draft : Draft) (text : List Char) :
    (draft.addComment text).block = draft.block := by
  unfold addComment
  split <;> rfl

private theorem addAction_block (draft : Draft) (text : List Char) :
    (draft.addAction environment text).block = draft.block := by
  unfold addAction
  dsimp only
  split <;> rfl

theorem closeBlock_block (draft : Draft) (lines : List (List Char)) :
    (draft.closeBlock lines).block = none := by
  unfold closeBlock
  dsimp only
  split <;> rfl

theorem takePart_block {draft : Draft} (outside : draft.block = none) {part : Part}
    (clean : part.Clean) : (draft.takePart environment part).block = none := by
  cases part with
  | block lines => exact closeBlock_block draft _
  | line text =>
    have said := Line.of_ofTrimmed clean.2
    rw [takePart]
    generalize Line.ofTrimmed text = line at said
    cases said with
    | blank => exact outside
    | title _ name => cases name <;> rfl
    | comment _ _ note => exact (addComment_block draft note).trans outside
    | separator =>
      rw [take]
      split
      · rfl
      · exact outside
    | action =>
      rw [take]
      split
      · exact (addAction_block environment draft text).trans outside
      · exact outside

private theorem foldl_feed_block (draft : Draft) (kept lines : List (List Char)) :
    (lines.foldl (feed environment) { draft with block := some kept }).finish =
      (((lines.dropWhile staysInside).drop 1).foldl (feed environment)
        (draft.closeBlock (kept ++ (lines.takeWhile staysInside).map dropReturn))).finish := by
  induction lines generalizing kept with
  | nil =>
    have closed := closeBlock_block draft kept
    simp only [List.dropWhile_nil, List.drop_nil, List.foldl_nil, List.takeWhile_nil, List.map_nil,
      List.append_nil]
    simp only [finish, closed]
    rfl
  | cons line rest ih =>
    rw [List.foldl_cons, feed]
    dsimp only
    rw [trim_dropReturn]
    split
    next closed =>
      have ends : staysInside line = false := by simp [staysInside, closed]
      simp [ends]
      rfl
    next stays =>
      have inside : staysInside line = true := by simpa [staysInside] using stays
      rw [ih]
      simp [inside]

theorem foldl_feed (draft : Draft) (outside : draft.block = none) (lines : List (List Char)) :
    (lines.foldl (feed environment) draft).finish =
      ((parts lines).foldl (takePart environment) draft).cases := by
  fun_induction parts lines generalizing draft with
  | case1 => simp [finish, outside]
  | case2 line rest opened ih =>
    have begun : draft.feed environment line = { draft with block := some [] } := by
      rw [feed, trim_dropReturn, opened, outside]
      rfl
    rw [List.foldl_cons, begun, foldl_feed_block, ih _ (closeBlock_block draft _)]
    rfl
  | case3 line rest other ih =>
    have clean : (Part.line (trim line)).Clean := ⟨trim_trim line, other⟩
    have taken : draft.feed environment line = draft.takePart environment (.line (trim line)) := by
      rw [feed, trim_dropReturn, outside]
      rfl
    rw [List.foldl_cons, taken, ih _ (takePart_block environment outside clean)]
    rfl

end Draft

theorem parse_eq_foldl_parts (environment : Environment) (content : String) :
    parse environment content =
      ((parts (lines content.toList)).foldl (Draft.takePart environment) Draft.empty).cases :=
  Draft.foldl_feed environment Draft.empty rfl _

/-- What a part of a case becomes: a block with lines in it is joined to one step, and a line that is
written as a step makes one, unless it is a separator with more on its line. -/
inductive Part.Makes : Part → List Step → Prop
  | nothing {part : Part} (unwritten : part.isStep = part.isTrailedSeparator) : Makes part []
  | line {text : List Char} {step : Step} (written : (Part.line text).isStep = true)
      (unmarked : (Part.line text).isTrailedSeparator = false) (single : step.isMultiline = false)
      (filled : step.action ≠ "") : Makes (.line text) [step]
  | block {lines : List (List Char)} {step : Step} (nonempty : lines ≠ [])
      (multiline : step.isMultiline = true)
      (joined : step.action = String.ofList (joinWith '\n' (lines.map dropReturn))) :
    Makes (.block lines) [step]

private theorem Part.Makes.length {part : Part} {made : List Step} (makes : part.Makes made) :
    made.length + (if part.isTrailedSeparator then 1 else 0) = if part.isStep then 1 else 0 := by
  cases makes with
  | nothing unwritten =>
    rw [unwritten]
    exact Nat.zero_add _
  | line written unmarked =>
    rw [written, unmarked]
    rfl
  | @block lines _ nonempty =>
    obtain ⟨first, rest, rfl⟩ := List.exists_cons_of_ne_nil nonempty
    rfl

private theorem length_made {parts : List Part} {made : List (List Step)}
    (makes : List.Forall₂ Part.Makes parts made) :
    made.flatten.length + parts.countP Part.isTrailedSeparator = parts.countP Part.isStep := by
  induction makes with
  | nil => rfl
  | cons here later ih =>
    have one := here.length
    rw [List.flatten_cons, List.length_append, List.countP_cons, List.countP_cons]
    omega

private theorem statsOf_steps (cases : List Case) :
    (Document.statsOf cases).steps = (cases.flatMap (·.steps)).length := by
  rw [List.length_flatMap]
  rfl

namespace Draft
variable (environment : Environment)

def steps (draft : Draft) : List Step :=
  draft.cases.flatMap (·.steps)

private theorem openCase_steps (draft : Draft) (name : String) : (draft.openCase name).steps = draft.steps := by
  simp [steps, cases, openCase]

private theorem addStep_steps {draft : Draft} (inside : draft.current.isSome = true) (step : Step) :
    (draft.addStep step).steps = draft.steps ++ [step] := by
  obtain ⟨case, found⟩ := Option.isSome_iff_exists.mp inside
  simp [steps, cases, addStep, found]

private theorem addComment_steps (draft : Draft) (text : List Char) :
    (draft.addComment text).steps = draft.steps := by
  unfold addComment
  split
  next case _ _ found => simp [steps, cases, found]
  next => rfl

/-- What reading a part did to an open case. -/
structure Grows (draft after : Draft) (added : List Step) : Prop where
  inside : after.current.isSome = true
  steps : after.steps = draft.steps ++ added

private theorem openCase_grows (draft : Draft) (name : String) : Grows draft (draft.openCase name) [] :=
  ⟨rfl, by rw [openCase_steps, List.append_nil]⟩

private theorem addComment_grows {draft : Draft} (inside : draft.current.isSome = true) (text : List Char) :
    Grows draft (draft.addComment text) [] := by
  refine ⟨?_, by rw [addComment_steps, List.append_nil]⟩
  unfold addComment
  split
  · rfl
  · exact inside

private theorem addStep_grows {draft : Draft} (inside : draft.current.isSome = true) (step : Step) :
    Grows draft (draft.addStep step) [step] :=
  ⟨by simpa [addStep] using inside, addStep_steps inside step⟩

private theorem addAction_grows {draft : Draft} (inside : draft.current.isSome = true) {text : List Char}
    (kept : (inlineComment text).1 ≠ []) :
    ∃ step, Grows draft (draft.addAction environment text) [step] ∧ step.isMultiline = false ∧
      step.action ≠ "" := by
  have filled := environment.expandChars_ne_nil kept
  have expanded : (environment.expandChars (inlineComment text).1).isEmpty = false := by
    simpa using filled
  unfold addAction
  dsimp only
  rw [expanded]
  refine ⟨_, addStep_grows inside _, rfl, ?_⟩
  intro empty
  exact filled (String.ofList_eq_empty_iff.mp empty)

private theorem closeBlock_grows {draft : Draft} (inside : draft.current.isSome = true)
    {lines : List (List Char)} (nonempty : lines ≠ []) :
    ∃ step, Grows draft (draft.closeBlock lines) [step] ∧ step.isMultiline = true ∧
      step.action = String.ofList (joinWith '\n' lines) := by
  have opened : ¬ draft.current.isNone = true := by simp [Option.isSome_iff_ne_none.mp inside]
  have filled : ¬ (lines.isEmpty = true ∨ draft.current.isNone = true) := by simp [nonempty, opened]
  have outside : ({ draft with block := none } : Draft).current.isSome = true := inside
  unfold closeBlock
  dsimp only
  rw [if_neg filled]
  have grown := addStep_grows outside
    { action := String.ofList (joinWith '\n' lines), comment := draft.pending, isMultiline := true }
  exact ⟨_, ⟨grown.inside, grown.steps⟩, rfl, rfl⟩

/-- A part of an open case makes its steps, which come after the ones read before. -/
theorem takePart_grows {draft : Draft} (inside : draft.current.isSome = true) {part : Part}
    (clean : part.Clean) :
    ∃ added, part.Makes added ∧ Grows draft (draft.takePart environment part) added := by
  have unchanged : Grows draft draft [] := ⟨inside, (List.append_nil _).symm⟩
  cases part with
  | block lines =>
    cases lines with
    | nil => exact ⟨[], .nothing rfl, inside, (List.append_nil _).symm⟩
    | cons line rest =>
      obtain ⟨step, grown, multiline, joined⟩ :=
        closeBlock_grows inside (List.cons_ne_nil (dropReturn line) (rest.map dropReturn))
      exact ⟨[step], .block (List.cons_ne_nil line rest) multiline joined, grown⟩
  | line text =>
    have said := Line.of_ofTrimmed clean.2
    rw [takePart]
    generalize Line.ofTrimmed text = line at said
    cases said with
    | blank empty =>
      subst empty
      exact ⟨[], .nothing rfl, unchanged⟩
    | title header name =>
      obtain ⟨noStep, noSeparator⟩ := Part.of_hash (Part.head_of_isHeader header)
      refine ⟨[], .nothing (noStep.trans noSeparator.symm), ?_⟩
      cases name <;> exact openCase_grows draft _
    | comment _ first note =>
      obtain ⟨noStep, noSeparator⟩ := Part.of_hash first
      exact ⟨[], .nothing (noStep.trans noSeparator.symm), addComment_grows inside note⟩
    | separator begun =>
      refine ⟨[], .nothing (Part.of_separator begun), ?_⟩
      rw [take, if_pos inside]
      exact openCase_grows draft _
    | action nonempty first noSeparator =>
      obtain ⟨written, unmarked⟩ := Part.of_action nonempty first noSeparator
      obtain ⟨step, grown, single, filled⟩ :=
        addAction_grows environment inside (inlineComment_ne_nil clean.1 nonempty first)
      refine ⟨[step], .line written unmarked single filled, ?_⟩
      rw [take, if_pos inside]
      exact grown

private theorem foldl_takePart_steps {draft : Draft} (inside : draft.current.isSome = true)
    {parts : List Part} (clean : ∀ part ∈ parts, part.Clean) :
    ∃ made, List.Forall₂ Part.Makes parts made ∧
      (parts.foldl (takePart environment) draft).steps = draft.steps ++ made.flatten := by
  induction parts generalizing draft with
  | nil => exact ⟨[], .nil, (List.append_nil _).symm⟩
  | cons part rest ih =>
    obtain ⟨added, makes, grown⟩ := takePart_grows environment inside (clean part (by simp))
    obtain ⟨made, later, steps⟩ := ih grown.inside fun other member => clean other (by simp [member])
    refine ⟨added :: made, .cons makes later, ?_⟩
    rw [List.foldl_cons, steps, grown.steps, List.flatten_cons, List.append_assoc]

private theorem takePart_header (draft : Draft) {part : Part} (clean : part.Clean)
    (header : part.isHeader = true) : ∃ name, draft.takePart environment part = draft.openCase name := by
  cases part with
  | block lines => cases header
  | line text =>
    have first := Part.head_of_isHeader header
    have said := Line.of_ofTrimmed clean.2
    rw [takePart]
    generalize Line.ofTrimmed text = line at said
    cases said with
    | blank empty => subst empty; cases first
    | title _ name => cases name <;> exact ⟨_, rfl⟩
    | comment noHeader => rw [header] at noHeader; contradiction
    | separator begun => obtain ⟨rest, rfl⟩ := begun; cases first
    | action _ other => exact absurd first other

structure Unopened (draft : Draft) : Prop where
  closed : draft.closed = []
  current : draft.current = none

private theorem Unopened.takePart {draft : Draft} (unopened : draft.Unopened) {part : Part}
    (clean : part.Clean) (noHeader : part.isHeader = false) :
    (draft.takePart environment part).Unopened := by
  obtain ⟨closed, current⟩ := unopened
  cases part with
  | block lines =>
    have outside : draft.current.isNone = true := by rw [current]; rfl
    rw [Draft.takePart, closeBlock, if_pos (.inr outside)]
    exact ⟨closed, current⟩
  | line text =>
    have said := Line.of_ofTrimmed clean.2
    rw [Draft.takePart]
    generalize Line.ofTrimmed text = line at said
    cases said with
    | blank => exact ⟨closed, current⟩
    | title header => rw [header] at noHeader; contradiction
    | comment => simp only [take, addComment, current]; exact ⟨closed, current⟩
    | separator | action => simp only [take, current, Option.isSome_none]; exact ⟨closed, current⟩

private theorem Unopened.foldl_steps {draft : Draft} (unopened : draft.Unopened) {parts : List Part}
    (clean : ∀ part ∈ parts, part.Clean) :
    ∃ made, List.Forall₂ Part.Makes (Part.insideCases parts) made ∧
      (parts.foldl (Draft.takePart environment) draft).steps = made.flatten := by
  induction parts generalizing draft with
  | nil =>
    refine ⟨[], .nil, ?_⟩
    simp [steps, cases, unopened.closed, unopened.current]
  | cons part rest ih =>
    have later : ∀ other ∈ rest, other.Clean := fun other member => clean other (by simp [member])
    cases header : part.isHeader with
    | false =>
      have skipped : Part.insideCases (part :: rest) = Part.insideCases rest := by
        simp [Part.insideCases, header]
      rw [List.foldl_cons, skipped]
      exact ih (unopened.takePart environment (clean part (by simp)) header) later
    | true =>
      have first : Part.insideCases (part :: rest) = rest := by simp [Part.insideCases, header]
      obtain ⟨name, opened⟩ := takePart_header environment draft (clean part (by simp)) header
      have none : draft.steps = [] := by simp [steps, cases, unopened.closed, unopened.current]
      have inside : (draft.openCase name).current.isSome = true := rfl
      obtain ⟨made, makes, read⟩ := foldl_takePart_steps environment inside later
      rw [first]
      refine ⟨made, makes, ?_⟩
      rw [List.foldl_cons, opened, read, openCase_steps, none, List.nil_append]

end Draft

/-- The steps of a text are what its parts make, in order. -/
theorem parse_steps (environment : Environment) (content : String) :
    ∃ made, List.Forall₂ Part.Makes (caseParts content) made ∧
      (parse environment content).flatMap (·.steps) = made.flatten := by
  rw [parse_eq_foldl_parts]
  exact Draft.Unopened.foldl_steps environment ⟨rfl, rfl⟩ (parts_clean _)

/-- Every part of a case that is written as a step is read as one, unless it is a separator with more
on its line; so nothing is lost exactly if there is no such separator. -/
theorem parse_accounts_for_steps (environment : Environment) (content : String) :
    let read := (Document.statsOf (parse environment content)).steps
    let written := (caseParts content).countP Part.isStep
    read + (caseParts content).countP Part.isTrailedSeparator = written ∧
      (read = written ↔ ∀ part ∈ caseParts content, part.isTrailedSeparator = false) := by
  intro read written
  have balance : read + (caseParts content).countP Part.isTrailedSeparator = written := by
    have counted : read = ((parse environment content).flatMap (·.steps)).length := statsOf_steps _
    obtain ⟨made, makes, steps⟩ := parse_steps environment content
    rw [counted, steps]
    exact length_made makes
  refine ⟨balance, ?_⟩
  have none : (caseParts content).countP Part.isTrailedSeparator = 0 ↔
      ∀ part ∈ caseParts content, part.isTrailedSeparator = false := by
    simp [List.countP_eq_zero]
  rw [← none]
  omega

/-- The line `--- then pay` of an open case is written as a step and is not read as one. -/
theorem trailedSeparator_lost :
    (Document.statsOf (parse .empty "## Cart\nadd a mug\n--- then pay\nread the total\n")).steps ≠
      (caseParts "## Cart\nadd a mug\n--- then pay\nread the total\n").countP Part.isStep := by
  decide +kernel

end TextScenario.Scenario
