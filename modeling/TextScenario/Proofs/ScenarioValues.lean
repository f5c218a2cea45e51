import Mathlib.Data.List.Forall2
import TextScenario.Proofs.ScenarioParts

/-! Variables fill in a scenario and never change its structure. A text is read under two environments
side by side, and between two parts the drafts differ only in values that were put into steps. -/

namespace TextScenario

/-- What variables may do to a step. The lines of a block are left as they are, and so is a comment
that stood on a line of its own. -/
structure Step.Filled (environment : Environment) (plain filled : Step) : Prop where
  isMultiline : filled.isMultiline = plain.isMultiline
  block : plain.isMultiline = true → filled = plain
  line : plain.isMultiline = false → filled.action = environment.expand plain.action
  comment : filled.comment = plain.comment ∨
    filled.comment = plain.comment.map environment.expand

private theorem Step.Filled.verbatim (environment : Environment) (action : String) (comment : Option String) :
    Step.Filled environment { action, comment, isMultiline := true }
      { action, comment, isMultiline := true } :=
  ⟨rfl, fun _ => rfl, fun single => Bool.noConfusion single, .inl rfl⟩

structure Case.Filled (environment : Environment) (plain filled : Case) : Prop where
  name : filled.name = plain.name
  comments : filled.comments = plain.comments
  steps : List.Forall₂ (Step.Filled environment) plain.steps filled.steps

namespace Scenario
open Text

variable {environment : Environment}

/-- Two drafts of one text that agree in everything but the values of variables. -/
structure Draft.Filled (environment : Environment) (plain filled : Draft) : Prop where
  closed : List.Forall₂ (Case.Filled environment) plain.closed filled.closed
  current : Option.Rel (Case.Filled environment) plain.current filled.current
  pending : filled.pending = plain.pending

namespace Draft.Filled
variable {plain filled : Draft}

private theorem current_cases (same : Filled environment plain filled) :
    plain.current = none ∧ filled.current = none ∨
      ∃ case other, plain.current = some case ∧ filled.current = some other ∧
        case.Filled environment other := by
  have current := same.current
  generalize plain.current = first at current
  generalize filled.current = second at current
  cases current with
  | none => exact .inl ⟨rfl, rfl⟩
  | some related => exact .inr ⟨_, _, rfl, rfl, related⟩

private theorem isSome (same : Filled environment plain filled) :
    filled.current.isSome = plain.current.isSome := by
  rcases same.current_cases with ⟨none, other⟩ | ⟨_, _, found, other, _⟩
  · rw [none, other]
  · rw [found, other, Option.isSome_some, Option.isSome_some]

private theorem cases (same : Filled environment plain filled) :
    List.Forall₂ (Case.Filled environment) plain.cases filled.cases := by
  refine List.rel_append same.closed ?_
  rcases same.current_cases with ⟨none, other⟩ | ⟨_, _, found, other, related⟩
  · rw [none, other]
    exact .nil
  · rw [found, other]
    exact .cons related .nil

private theorem untitledName (same : Filled environment plain filled) :
    filled.untitledName = plain.untitledName := by
  rw [Draft.untitledName, Draft.untitledName, same.cases.length_eq]

private theorem openCase (same : Filled environment plain filled) (name : String) :
    Filled environment (plain.openCase name) (filled.openCase name) :=
  ⟨same.cases, .some ⟨rfl, rfl, .nil⟩, rfl⟩

private theorem addStep (same : Filled environment plain filled) {step other : Step}
    (related : step.Filled environment other) :
    Filled environment (plain.addStep step) (filled.addStep other) := by
  refine ⟨same.closed, ?_, rfl⟩
  rw [Draft.addStep, Draft.addStep]
  rcases same.current_cases with ⟨none, absent⟩ | ⟨_, _, found, present, inside⟩
  · rw [none, absent]
    exact .none
  · rw [found, present]
    exact .some ⟨inside.name, inside.comments, List.rel_append inside.steps (.cons related .nil)⟩

private theorem addComment (same : Filled environment plain filled) (text : List Char) :
    Filled environment (plain.addComment text) (filled.addComment text) := by
  rcases same.current_cases with ⟨none, absent⟩ | ⟨case, other, found, present, inside⟩
  · simpa only [Draft.addComment, none, absent] using same
  · cases text with
    | nil => simpa only [Draft.addComment, found, present] using same
    | cons first rest =>
      have comments : case.comments ++ [String.ofList (first :: rest)] =
          other.comments ++ [String.ofList (first :: rest)] := by rw [inside.comments]
      simp only [Draft.addComment, found, present]
      exact ⟨same.closed, .some ⟨inside.name, comments.symm, inside.steps⟩, rfl⟩

private theorem closeBlock (same : Filled environment plain filled) (lines : List (List Char)) :
    Filled environment (plain.closeBlock lines) (filled.closeBlock lines) := by
  have outside : Filled environment { plain with block := none } { filled with block := none } :=
    ⟨same.closed, same.current, same.pending⟩
  have none : filled.current.isNone = plain.current.isNone := by
    rw [← Option.not_isSome, ← Option.not_isSome, same.isSome]
  unfold Draft.closeBlock
  dsimp only
  rw [none]
  split
  · exact outside
  · refine outside.addStep ?_
    rw [same.pending]
    exact .verbatim environment _ _

/-- An action is cut from its comment before either is filled in, and it is empty in both drafts or in
neither. -/
theorem addAction (same : Filled environment plain filled) (text : List Char) :
    Filled environment (plain.addAction .empty text) (filled.addAction environment text) := by
  have unpended : Filled environment { plain with pending := none } { filled with pending := none } :=
    ⟨same.closed, same.current, rfl⟩
  have empty : (environment.expandChars (inlineComment text).1).isEmpty =
      (inlineComment text).1.isEmpty := by
    rw [Bool.eq_iff_iff, List.isEmpty_iff, List.isEmpty_iff, environment.expandChars_eq_nil_iff]
  unfold Draft.addAction
  dsimp only
  rw [Environment.expandChars_empty, empty, same.pending]
  split
  · exact unpended
  · refine same.addStep ⟨rfl, fun multiline => Bool.noConfusion multiline, fun _ => ?_, ?_⟩
    · simp [Environment.expand]
    · cases (inlineComment text).2 with
      | none => exact .inl rfl
      | some note =>
        refine .inr ?_
        simp [Environment.expand, Environment.expandChars_empty]

private theorem take (same : Filled environment plain filled) (line : Line) :
    Filled environment (plain.take .empty line) (filled.take environment line) := by
  cases line with
  | blank => exact same
  | blockOpen => exact ⟨same.closed, same.current, same.pending⟩
  | title name =>
    cases name with
    | nil =>
      rw [Draft.take, Draft.take, same.untitledName]
      exact same.openCase _
    | cons => exact same.openCase _
  | comment text => exact same.addComment text
  | separator =>
    simp only [Draft.take, same.isSome, same.untitledName]
    split
    · exact same.openCase _
    · exact same
  | action text =>
    simp only [Draft.take, same.isSome]
    split
    · exact same.addAction text
    · exact same

private theorem takePart (same : Filled environment plain filled) (part : Part) :
    Filled environment (plain.takePart .empty part) (filled.takePart environment part) := by
  cases part with
  | line text => exact same.take _
  | block lines => exact same.closeBlock _

private theorem foldl_takePart (same : Filled environment plain filled) (parts : List Part) :
    Filled environment (parts.foldl (Draft.takePart .empty) plain)
      (parts.foldl (Draft.takePart environment) filled) := by
  induction parts generalizing plain filled with
  | nil => exact same
  | cons part rest ih => exact ih (same.takePart part)

end Draft.Filled

/-- Under any environment a text has the cases and steps that it has without variables; only single
lines and the comments on them are filled in. -/
theorem parse_filled (environment : Environment) (content : String) :
    List.Forall₂ (Case.Filled environment) (parse .empty content) (parse environment content) := by
  have start : Draft.Filled environment Draft.empty Draft.empty := ⟨.nil, .none, rfl⟩
  rw [parse_eq_foldl_parts, parse_eq_foldl_parts]
  exact (start.foldl_takePart _).cases

end Scenario

end TextScenario
