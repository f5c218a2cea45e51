import TextScenario.Proofs.RunCancellation

/-! Strict runs. A strict book differs from a lenient one in what it refuses, and a refused step ends its
case without a call. So a strict run of a case is the lenient run up to its first refusal, whatever the
cases before it came to. -/

namespace TextScenario

/-- What a strict book refuses a translation for. -/
def Translation.lacking? : Translation → Option MissingParameters
  | .rules found =>
    if found.missing.isEmpty then none else some { rule := found.rule, missing := found.missing }
  | .agent _ _ => none

namespace Template

/-- The value of a required name is missing if nothing was captured under it, if its group took no
part, or if it is blank. -/
theorem mem_missing_iff {required : List String} {parameters : Parameters} {name : String} :
    name ∈ missing required parameters ↔
      name ∈ required ∧ (parameters.lookup name = none ∨ parameters.lookup name = some none ∨
        ∃ value, parameters.lookup name = some (some value) ∧ Text.trim value.toList = []) := by
  rw [missing, List.mem_filter, Parameters.value?]
  refine and_congr_right fun _ => ?_
  rcases parameters.lookup name with _ | _ | value <;> simp

end Template

namespace RuleBook

variable {book : RuleBook}

private theorem translate_missing {source action : String} {translation : RuleTranslation}
    (translated : book.translate source action = .ok (.rules translation)) :
    ∃ found, book.find? action = some found ∧ translation.rule = found.rule.name ∧
      translation.parameters = found.parameters ∧
      translation.missing = Template.missing found.rule.required found.parameters := by
  rw [translate] at translated
  split at translated
  · cases translated
  next found hit =>
    dsimp only at translated
    split at translated
    · cases translated
    · cases translated
      exact ⟨found, hit, rfl, rfl, rfl⟩

private theorem translate_strict (lenient : book.strict = false) (source action : String) :
    ∃ translation, book.translate source action = .ok translation ∧
      ({ book with strict := true } : RuleBook).translate source action =
        match translation.lacking? with
        | some error => .error error
        | none => .ok translation := by
  have found : ({ book with strict := true } : RuleBook).find? action = book.find? action := rfl
  simp only [translate, found, lenient, Bool.and_false, Bool.and_true]
  split
  · exact ⟨_, rfl, rfl⟩
  next hit _ =>
    refine ⟨_, rfl, ?_⟩
    cases complete : (Template.missing hit.rule.required hit.parameters).isEmpty <;>
      simp [Translation.lacking?, complete]

end RuleBook

namespace Translator

/-- What a strict translator refuses a step for whose variables were put in. -/
def lacking? (translator : Translator) (action : String) : Option MissingParameters :=
  (translator.translateExpanded action).toOption.bind Translation.lacking?

/-- Two translators with the same rules, one of them lenient and the other strict. -/
structure Stricter (lenient strict : Translator) : Prop where
  loose : lenient.book.strict = false
  book : strict.book = { lenient.book with strict := true }

private theorem load_stricter (files : FileSystem) (source : RuleSource) (environment : Environment)
    (compiler : PatternCompiler) :
    Stricter (load files source (some false) environment compiler)
      (load files source (some true) environment compiler) :=
  ⟨rfl, rfl⟩

/-- A strict translator refuses what is lacking and translates everything else as a lenient one. -/
theorem Stricter.translateExpanded {lenient strict : Translator} (stricter : Stricter lenient strict)
    (action : String) :
    strict.translateExpanded action =
      match lenient.lacking? action with
      | some error => .error error
      | none => lenient.translateExpanded action := by
  obtain ⟨translation, translated, refused⟩ := RuleBook.translate_strict stricter.loose action action
  have loose : lenient.translateExpanded action = .ok translation := translated
  rw [Translator.translateExpanded, stricter.book, refused, lacking?, loose]
  rfl

end Translator

def CaseReport.calls (report : CaseReport) : List SessionCall :=
  (report.steps.map (·.outcome)).filterMap Outcome.call?

/-- An outcome that is nothing but the refusal of a step, which another outcome told of. -/
structure MissingParameters.Refuses (error : MissingParameters) (other refusal : Outcome) : Prop where
  failed : refusal.success = false
  error : refusal.error = some error.message
  action : refusal.action = other.action
  workflow : refusal.workflow = other.workflow
  kind : refusal.kind = none
  code : refusal.code = none
  nothing : refusal.result = none ∧ refusal.summary = none
  uncalled : refusal.call? = none

/-- What a strict run makes of a case that a lenient run reports on. The case ends with the refusal of
the first step that lacks parameters, and is as in the lenient run if there is none. -/
inductive CaseReport.Tightened (lenient : Translator) (loose : CaseReport) : CaseReport → Prop
  | unrefused (complete : ∀ step ∈ loose.steps, lenient.lacking? step.outcome.action = none) :
      Tightened lenient loose loose
  | refused {earlier later : List StepReport} {step : StepReport} {error : MissingParameters}
      {refusal : Outcome} (split : loose.steps = earlier ++ step :: later)
      (complete : ∀ before ∈ earlier, lenient.lacking? before.outcome.action = none)
      (lacking : lenient.lacking? step.outcome.action = some error)
      (refuses : error.Refuses step.outcome refusal) :
      Tightened lenient loose
        { loose with
          steps := earlier ++ [{ step with outcome := refusal }]
          error := some error.message }

namespace CaseReport.Tightened

variable {lenient : Translator} {loose tight : CaseReport}

/-- A step that lacks nothing is the same in both runs. -/
theorem cons (tightened : Tightened lenient loose tight) {step : StepReport}
    (complete : lenient.lacking? step.outcome.action = none) :
    Tightened lenient { loose with steps := step :: loose.steps }
      { tight with steps := step :: tight.steps } := by
  cases tightened with
  | unrefused others =>
    exact .unrefused (List.forall_mem_cons.mpr ⟨complete, others⟩)
  | @refused earlier later _ _ _ split others lacking refuses =>
    have longer : step :: loose.steps = (step :: earlier) ++ _ :: later := congrArg (step :: ·) split
    exact .refused longer (List.forall_mem_cons.mpr ⟨complete, others⟩) lacking refuses

private theorem begun {step : StepReport} {error : MissingParameters} {refusal : Outcome} {name : String}
    {comments : List String} {later : List StepReport} {ended : Option String}
    (lacking : lenient.lacking? step.outcome.action = some error)
    (refuses : error.Refuses step.outcome refusal) :
    Tightened lenient ⟨name, comments, step :: later, ended⟩
      ⟨name, comments, [{ step with outcome := refusal }], some error.message⟩ := by
  have first : ∀ before ∈ ([] : List StepReport), lenient.lacking? before.outcome.action = none := by
    simp
  exact .refused (List.nil_append _).symm first lacking refuses

end CaseReport.Tightened

private theorem MissingParameters.outcome_refuses (error : MissingParameters) {action : String}
    {workflow : WorkflowId} {other : Outcome} (named : other.action = action ∧ other.workflow = workflow) :
    error.Refuses other (error.outcome action workflow) :=
  ⟨rfl, rfl, named.1.symm, named.2.symm, rfl, rfl, ⟨rfl, rfl⟩, rfl⟩

namespace Executor

variable (script : Script) (limit : Option Nat) {lenient strict : Translator}
variable {loose tight : Executor SessionLog}

private theorem compileParsed_strict (stricter : Translator.Stricter lenient strict)
    (first : loose.translator = lenient) (second : tight.translator = strict) (action : String)
    (workflow : WorkflowId) :
    tight.compileParsed action workflow =
      match lenient.lacking? action with
      | some error => .error error
      | none => loose.compileParsed action workflow := by
  rw [compileParsed, compileParsed, first, second, stricter.translateExpanded]
  cases lenient.lacking? action <;> rfl

/-- In a strict run a step comes to what it comes to in a lenient one, unless it is refused. -/
theorem executeParsed_strict (stricter : Translator.Stricter lenient strict)
    (first : loose.translator = lenient) (second : tight.translator = strict) (action : String)
    (workflow : WorkflowId) :
    let context := (script.wholeRun limit).toExecutionContext
    (tight.executeParsed context action workflow).1 =
      match lenient.lacking? action with
      | some error => error.outcome action workflow
      | none => (loose.executeParsed context action workflow).1 := by
  intro context
  have told (executor : Executor SessionLog) : (executor.executeParsed context action workflow).1 =
      script.outcomeOf limit action workflow (executor.compileParsed action workflow) :=
    (finish_followed script.followed_provider executor action workflow _).1
  rw [told, told, compileParsed_strict stricter first second]
  cases lenient.lacking? action <;> rfl

private theorem runSteps_strict (stricter : Translator.Stricter lenient strict)
    (first : loose.translator = lenient) (second : tight.translator = strict) (workflow : WorkflowId)
    (place : Nat) (steps : List Step) (name : String) (comments : List String) :
    let whole := loose.runSteps (script.wholeRun limit) workflow place steps
    let refused := tight.runSteps (script.wholeRun limit) workflow place steps
    CaseReport.Tightened lenient ⟨name, comments, whole.1, whole.2.1⟩
      ⟨name, comments, refused.1, refused.2.1⟩ := by
  induction steps generalizing loose tight place with
  | nil => exact .unrefused (by simp [runSteps])
  | cons step rest ih =>
    have told := executeParsed_strict script limit stricter
      (show (loose.elapse (script.wholeRun limit)).translator = lenient from first)
      (show (tight.elapse (script.wholeRun limit)).translator = strict from second) step.action workflow
    have kept := executeParsed_records (script.wholeRun limit).toExecutionContext
      (loose.elapse (script.wholeRun limit)) step.action workflow
    have rekept := executeParsed_records (script.wholeRun limit).toExecutionContext
      (tight.elapse (script.wholeRun limit)) step.action workflow
    have named := (loose.elapse (script.wholeRun limit)).executeParsed_names
      (script.wholeRun limit).toExecutionContext step.action workflow
    dsimp only at told
    -- from here on the two outcomes are known by what the step lacks, so the runs can be opened together
    rw [runSteps_cons _ _ loose _ _ _ rfl, runSteps_cons _ _ tight _ _ _ rfl]
    generalize (loose.elapse (script.wholeRun limit)).executeParsed
      (script.wholeRun limit).toExecutionContext step.action workflow = ran at told kept named
    generalize (tight.elapse (script.wholeRun limit)).executeParsed
      (script.wholeRun limit).toExecutionContext step.action workflow = reran at told rekept
    obtain ⟨outcome, looseAfter⟩ := ran
    obtain ⟨other, tightAfter⟩ := reran
    have later := ih (kept.2.1.trans first) (rekept.2.1.trans second) (place + 1)
    dsimp only at told ⊢
    cases lacking : lenient.lacking? step.action with
    | none =>
      have same : other = outcome := by rw [told, lacking]
      have complete : lenient.lacking? outcome.action = none := named.1 ▸ lacking
      subst same
      split
      next => exact later.cons complete
      next => exact .unrefused (by simpa using complete)
    | some error =>
      have refused : other = error.outcome step.action workflow := by rw [told, lacking]
      have lacks : lenient.lacking? outcome.action = some error := named.1 ▸ lacking
      subst refused
      rw [if_neg (show ¬ (error.outcome step.action workflow).success = true from Bool.false_ne_true)]
      split
      next => exact .begun lacks (error.outcome_refuses named)
      next => exact .begun lacks (error.outcome_refuses named)

private theorem runCases_strict (stricter : Translator.Stricter lenient strict)
    (first : loose.translator = lenient) (second : tight.translator = strict) (workflow : WorkflowId)
    (cases : List Case) :
    List.Forall₂ (CaseReport.Tightened lenient)
      (loose.runCases (script.wholeRun limit) workflow cases).1
      (tight.runCases (script.wholeRun limit) workflow cases).1 := by
  induction cases generalizing loose tight with
  | nil => exact .nil
  | cons case rest ih =>
    have kept := (runCase_of (script.wholeRun limit) workflow
      (loose.elapse (script.wholeRun limit)) case).2.2
    have rekept := (runCase_of (script.wholeRun limit) workflow
      (tight.elapse (script.wholeRun limit)) case).2.2
    rw [runCases_cons _ _ loose _ _ rfl, runCases_cons _ _ tight _ _ rfl]
    refine .cons ?_ (ih (kept.trans first) (rekept.trans second))
    exact runSteps_strict script limit stricter
      (show (loose.elapse (script.wholeRun limit)).translator = lenient from first)
      (show (tight.elapse (script.wholeRun limit)).translator = strict from second) workflow 1
      case.steps case.name case.comments

private theorem runCases_whole (executor : Executor SessionLog) (workflow : WorkflowId) (cases : List Case) :
    List.Forall₂ (fun case report =>
        report.Of (script.wholeRun limit) executor.translator workflow case) cases
      (executor.runCases (script.wholeRun limit) workflow cases).1 := by
  induction cases generalizing executor with
  | nil => exact .nil
  | cons case rest ih =>
    have ran := runCase_of (script.wholeRun limit) workflow
      (executor.elapse (script.wholeRun limit)) case
    rw [runCases_cons _ _ executor _ _ rfl]
    refine .cons ran.1 ?_
    have kept : ((executor.elapse (script.wholeRun limit)).runCase (script.wholeRun limit) workflow
      case).2.translator = executor.translator := ran.2.2
    have later := ih ((executor.elapse (script.wholeRun limit)).runCase (script.wholeRun limit)
      workflow case).2
    rwa [kept] at later

end Executor

private theorem CaseReport.Of.actions {σ : Type} {context : RunContext σ} {translator : Translator}
    {workflow : WorkflowId} {case : Case} {report : CaseReport}
    (told : report.Of context translator workflow case) :
    report.steps.map (·.outcome.action) =
      (case.steps.take report.steps.length).map (·.action) := by
  have steps := told.steps
  generalize case.steps.take report.steps.length = planned at steps ⊢
  generalize report.steps = reported at steps ⊢
  induction steps with
  | nil => rfl
  | cons step _ ih =>
    obtain ⟨before, -, outcome⟩ := step.executed
    rw [List.map_cons, List.map_cons, ih, ← outcome, (Executor.executeParsed_names _ _ _ _).1]

private theorem RunReport.outcomes_calls (report : RunReport) :
    report.outcomes.filterMap Outcome.call? = report.cases.flatMap CaseReport.calls := by
  rw [outcomes, List.map_flatMap, List.filterMap_flatMap]
  rfl

/-- A strict run of a document beside a lenient one, with the calls that each of them made. -/
structure RunReport.Tightened (lenient : Translator) (document : Document)
    (loose tight : RunReport × Executor SessionLog) : Prop where
  steps : List.Forall₂
    (fun case report => report.steps.map (·.outcome.action) =
      (case.steps.take report.steps.length).map (·.action)) document.cases loose.1.cases
  cases : List.Forall₂ (CaseReport.Tightened lenient) loose.1.cases tight.1.cases
  looseCalls : ∀ workflow, loose.2.state.calls workflow =
    if document.workflow = workflow then loose.1.cases.flatMap CaseReport.calls else []
  tightCalls : ∀ workflow, tight.2.state.calls workflow =
    if document.workflow = workflow then tight.1.cases.flatMap CaseReport.calls else []

/-- Which parameters a lenient translator reports as missing: the required names of the rule, in order,
under which nothing was captured that is not blank. -/
def Translator.ReportsMissing (translator : Translator) : Prop :=
  ∀ action translation, translator.translateExpanded action = .ok (.rules translation) →
    ∃ found, translator.book.find? action = some found ∧ translation.rule = found.rule.name ∧
      translation.parameters = found.parameters ∧
      translation.missing.Sublist found.rule.required ∧
      ∀ name, name ∈ translation.missing ↔ name ∈ found.rule.required ∧
        (found.parameters.lookup name = none ∨ found.parameters.lookup name = some none ∨
          ∃ value, found.parameters.lookup name = some (some value) ∧
            Text.trim value.toList = [])

private theorem Translator.reportsMissing (translator : Translator) : translator.ReportsMissing := by
  intro action translation translated
  obtain ⟨found, hit, rule, parameters, missing⟩ := RuleBook.translate_missing translated
  refine ⟨found, hit, rule, parameters, ?_, fun name => ?_⟩
  · rw [missing]
    exact List.filter_sublist
  · rw [missing, Template.mem_missing_iff]

/-- With the same rules, a strict run is in each case the lenient run up to the first step that lacks
parameters, where the case ends with a refusal instead. -/
theorem Executor.runDocument_strict (script : Script) (limit : Option Nat) (files : FileSystem)
    (source : RuleSource) (environment : Environment) (compiler : PatternCompiler)
    (document : Document) :
    let lenient := Translator.load files source (some false) environment compiler
    let strict := Translator.load files source (some true) environment compiler
    let loose : Executor SessionLog := { translator := lenient, state := [] }
    let tight : Executor SessionLog := { translator := strict, state := [] }
    RunReport.Tightened lenient document (loose.runDocument (script.wholeRun limit) document)
      (tight.runDocument (script.wholeRun limit) document) ∧ lenient.ReportsMissing := by
  intro lenient strict loose tight
  have calls (executor : Executor SessionLog) (fresh : executor.state = []) (workflow : WorkflowId) :
      (executor.runDocument (script.wholeRun limit) document).2.state.calls workflow =
        if document.workflow = workflow then
          (executor.runDocument (script.wholeRun limit) document).1.cases.flatMap CaseReport.calls
        else [] := by
    have followed : script.Followed (script.wholeRun limit).sessions id := script.followed_provider
    have logged := (runDocument_logged followed (fun _ => rfl) executor document).calls fresh workflow
    rwa [RunReport.outcomes_calls] at logged
  refine ⟨⟨?_, ?_, calls loose rfl, calls tight rfl⟩, lenient.reportsMissing⟩
  · exact (runCases_whole script limit loose document.workflow document.cases).imp
      fun _ _ told => told.actions
  · exact runCases_strict script limit (Translator.load_stricter files source environment compiler)
      rfl rfl document.workflow document.cases

end TextScenario
