import TextScenario.Proofs.ScenarioParts

/-! What steps say. A step that stands on a line of its own always says something. A step from a block
says nothing exactly if the block is a single line with nothing on it. -/

namespace TextScenario.Scenario
open Text

theorem Part.Makes.countP_empty {part : Part} {made : List Step} (makes : part.Makes made) :
    made.countP (·.action.isEmpty) = if part.isHollow then 1 else 0 := by
  cases makes with
  | @nothing part unwritten =>
    have solid : part.isHollow = false := by
      cases part with
      | line text => rfl
      | block lines =>
        -- a block is never a separator, so here it has no lines
        have none : lines = [] := by simpa [isStep, isTrailedSeparator] using unwritten
        rw [none]
        rfl
    rw [solid]
    rfl
  | @line text step _ _ _ filled =>
    have said : step.action.isEmpty = false := by simpa using filled
    rw [List.countP_singleton, said]
    rfl
  | @block lines step nonempty _ joined =>
    have empty : step.action.isEmpty = (Part.block lines).isHollow := by
      rw [Bool.eq_iff_iff, String.isEmpty_iff, joined, String.ofList_eq_empty_iff,
        joinWith_eq_nil_iff, List.map_eq_nil_iff, isHollow, beq_iff_eq]
      simp [nonempty]
    rw [List.countP_singleton, empty]

theorem Part.Makes.multiline_of_empty {part : Part} {made : List Step} (makes : part.Makes made) :
    ∀ step ∈ made, step.action = "" → step.isMultiline = true := by
  cases makes with
  | nothing => simp
  | line _ _ _ filled => simpa using fun empty => absurd empty filled
  | block _ multiline => simpa using fun _ => multiline

private theorem countP_empty_made {parts : List Part} {made : List (List Step)}
    (makes : List.Forall₂ Part.Makes parts made) :
    made.flatten.countP (·.action.isEmpty) = parts.countP Part.isHollow := by
  induction makes with
  | nil => rfl
  | cons here later ih =>
    rw [List.flatten_cons, List.countP_append, List.countP_cons, here.countP_empty, ih, Nat.add_comm]

private theorem multiline_of_empty_made {parts : List Part} {made : List (List Step)}
    (makes : List.Forall₂ Part.Makes parts made) :
    ∀ step ∈ made.flatten, step.action = "" → step.isMultiline = true := by
  induction makes with
  | nil => simp
  | cons here later ih =>
    rw [List.flatten_cons]
    exact List.forall_mem_append.mpr ⟨here.multiline_of_empty, ih⟩

/-- As many steps are empty as there are hollow blocks in the cases, and all of them are blocks. So no
step is empty exactly if no block is hollow. -/
theorem parse_empty_steps (environment : Environment) (content : String) :
    let steps := (parse environment content).flatMap (·.steps)
    steps.countP (·.action.isEmpty) = (caseParts content).countP Part.isHollow ∧
      (∀ step ∈ steps, step.action = "" → step.isMultiline = true) ∧
      ((∀ step ∈ steps, step.action ≠ "") ↔ ∀ part ∈ caseParts content, part.isHollow = false) := by
  intro steps
  obtain ⟨made, makes, read⟩ := parse_steps environment content
  have counted : steps.countP (·.action.isEmpty) = (caseParts content).countP Part.isHollow := by
    rw [← countP_empty_made makes, ← read]
  refine ⟨counted, ?_, ?_⟩
  · rw [show steps = made.flatten from read]
    exact multiline_of_empty_made makes
  · have filled : (∀ step ∈ steps, step.action ≠ "") ↔ steps.countP (·.action.isEmpty) = 0 := by
      simp [List.countP_eq_zero]
    have solid : (∀ part ∈ caseParts content, part.isHollow = false) ↔
        (caseParts content).countP Part.isHollow = 0 := by
      simp [List.countP_eq_zero]
    rw [filled, solid, counted]

/-- A block with one empty line in it is read as a step that says nothing. -/
theorem hollowBlock_read :
    ¬ ∀ step ∈ (parse .empty "## Cart\n\"+\"\n\n\"-\"\n").flatMap (·.steps), step.action ≠ "" := by
  decide +kernel

end TextScenario.Scenario
