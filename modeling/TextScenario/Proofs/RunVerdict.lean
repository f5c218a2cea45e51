import TextScenario.Proofs.ChangedCommand
import TextScenario.Proofs.RunCancellation

/-! The verdict on a run of files. What a good run is can be told without reports: every file is loaded,
every step of every case is executed and succeeds, one after another, and at the end nothing has
cancelled the run. The verdict is true exactly for these runs, because what has once cancelled a run
still does at its end. -/

namespace TextScenario

variable {σ : Type}

/-- Nothing takes a cancellation back. -/
structure RunContext.Latched (context : RunContext σ) : Prop where
  elapse : ∀ state, context.cancelled state = true → context.cancelled (context.elapse state) = true
  connect : ∀ workflow state opened, context.sessions.connect workflow state = .ok opened →
    context.cancelled state = true → context.cancelled opened = true
  call : ∀ workflow call state, context.cancelled state = true →
    context.cancelled (context.sessions.call workflow call state).2 = true

namespace Executor

/-- Whether the state of an executor shows that its run is cancelled. -/
def isCancelled (context : RunContext σ) (executor : Executor σ) : Bool :=
  context.cancelled executor.state

/-- All of the steps are executed, one after another, and succeed. Time passes before each of them. -/
inductive Succeeds (context : RunContext σ) (workflow : WorkflowId) :
    Executor σ → List Step → Executor σ → Prop
  | done {executor} : Succeeds context workflow executor [] executor
  | step {executor middle after : Executor σ} {step : Step} {rest : List Step} {outcome : Outcome}
      (executed : (executor.elapse context).executeParsed context.toExecutionContext step.action
        workflow = (outcome, middle))
      (succeeded : outcome.success = true) (later : Succeeds context workflow middle rest after) :
      Succeeds context workflow executor (step :: rest) after

/-- All steps of the cases are executed and succeed. Time passes before each case. -/
inductive SucceedsAll (context : RunContext σ) (workflow : WorkflowId) :
    Executor σ → List Case → Executor σ → Prop
  | done {executor} : SucceedsAll context workflow executor [] executor
  | case {executor middle after : Executor σ} {case : Case} {rest : List Case}
      (succeeds : Succeeds context workflow (executor.elapse context) case.steps middle)
      (later : SucceedsAll context workflow middle rest after) :
      SucceedsAll context workflow executor (case :: rest) after

section Latched

variable {context : RunContext σ} {workflow : WorkflowId} {executor after : Executor σ}

private theorem elapse_cancelled (latched : context.Latched)
    (cancelled : executor.isCancelled context = true) :
    (executor.elapse context).isCancelled context = true :=
  latched.elapse _ cancelled

private theorem dispatch_cancelled (latched : context.Latched) (step : CompiledStep) {state : σ}
    (cancelled : context.cancelled state = true) :
    context.cancelled (dispatch context.toExecutionContext step state).2 = true := by
  unfold dispatch
  split
  next => exact cancelled
  next opened connected => exact latched.call _ _ _ (latched.connect _ _ _ connected cancelled)

private theorem executeParsed_cancelled (latched : context.Latched)
    (cancelled : executor.isCancelled context = true) (action : String) (workflow : WorkflowId) :
    (executor.executeParsed context.toExecutionContext action workflow).2.isCancelled context =
      true := by
  rw [executeParsed]
  cases executor.compileParsed action workflow with
  | error error => exact cancelled
  | ok step => exact dispatch_cancelled latched step cancelled

private theorem Succeeds.cancelled (latched : context.Latched) {steps : List Step}
    (succeeds : Succeeds context workflow executor steps after)
    (cancelled : executor.isCancelled context = true) : after.isCancelled context = true := by
  induction succeeds with
  | done => exact cancelled
  | @step _ _ _ step _ _ executed _ _ ih =>
    have kept := executeParsed_cancelled latched (elapse_cancelled latched cancelled) step.action
      workflow
    rw [executed] at kept
    exact ih kept

private theorem SucceedsAll.cancelled (latched : context.Latched) {cases : List Case}
    (succeeds : SucceedsAll context workflow executor cases after)
    (cancelled : executor.isCancelled context = true) : after.isCancelled context = true := by
  induction succeeds with
  | done => exact cancelled
  | case first _ ih => exact ih (first.cancelled latched (elapse_cancelled latched cancelled))

end Latched

section Reports

variable {context : RunContext σ} {workflow : WorkflowId}

/-- A case without an error was executed to its end. -/
theorem runSteps_sound (executor : Executor σ) (place : Nat) (steps : List Step)
    (passed : (executor.runSteps context workflow place steps).2.1 = none) :
    Succeeds context workflow executor steps
      (executor.runSteps context workflow place steps).2.2 := by
  induction steps generalizing executor place with
  | nil => exact .done
  | cons step rest ih =>
    cases looked : context.cancelled (executor.elapse context).state with
    | true =>
      rw [runSteps] at passed
      simp [looked] at passed
    | false =>
      rw [runSteps_cons _ _ executor _ _ _ looked] at passed ⊢
      have executed := executeParsed_records context.toExecutionContext (executor.elapse context)
        step.action workflow
      generalize ran : (executor.elapse context).executeParsed context.toExecutionContext step.action
        workflow = result at executed passed ⊢
      obtain ⟨outcome, middle⟩ := result
      obtain ⟨-, -, error⟩ := executed
      dsimp only at passed error ⊢
      split at passed
      next succeeded =>
        rw [if_pos succeeded]
        exact .step ran succeeded (ih _ _ passed)
      next failed =>
        rw [error, show outcome.error = none from passed] at failed
        exact absurd rfl failed

/-- If nothing has cancelled the run at the end of the steps, nothing had done so at an earlier look,
and all of them are reported. -/
theorem Succeeds.runSteps (latched : context.Latched) {executor after : Executor σ}
    {steps : List Step} (succeeds : Succeeds context workflow executor steps after)
    (running : ¬after.isCancelled context = true) (place : Nat) :
    ∃ reports, executor.runSteps context workflow place steps = (reports, none, after) := by
  induction succeeds generalizing place with
  | done => exact ⟨[], rfl⟩
  | @step executor _ _ step _ outcome executed succeeded later ih =>
    -- a cancellation that this look had found would still be there at the end
    have looked : ¬(executor.elapse context).isCancelled context = true := by
      intro cancelled
      have kept := executeParsed_cancelled latched cancelled step.action workflow
      rw [executed] at kept
      exact running (later.cancelled latched kept)
    obtain ⟨reports, ran⟩ := ih running (place + 1)
    refine ⟨⟨step.comment, step.isMultiline, outcome⟩ :: reports, ?_⟩
    rw [runSteps_cons _ _ executor _ _ _ (Bool.eq_false_iff.mpr looked), executed]
    dsimp only
    rw [if_pos succeeded, ran]

private theorem runCases_sound (executor : Executor σ) (cases : List Case)
    (finished : (executor.runCases context workflow cases).2.1 = false)
    (passed : (executor.runCases context workflow cases).1.all CaseReport.passed = true) :
    SucceedsAll context workflow executor cases (executor.runCases context workflow cases).2.2 := by
  induction cases generalizing executor with
  | nil => exact .done
  | cons case rest ih =>
    cases looked : context.cancelled (executor.elapse context).state with
    | true =>
      rw [runCases] at finished
      simp [looked] at finished
    | false =>
      rw [runCases_cons _ _ executor _ _ looked] at finished passed ⊢
      rw [List.all_cons, Bool.and_eq_true] at passed
      have ended : ((executor.elapse context).runSteps context workflow 1 case.steps).2.1 = none :=
        Option.isNone_iff_eq_none.mp passed.1
      exact .case (runSteps_sound _ _ _ ended) (ih _ finished passed.2)

private theorem SucceedsAll.runCases (latched : context.Latched) {executor after : Executor σ}
    {cases : List Case} (succeeds : SucceedsAll context workflow executor cases after)
    (running : ¬after.isCancelled context = true) :
    ∃ reports, executor.runCases context workflow cases = (reports, false, after) ∧
      reports.all CaseReport.passed = true := by
  induction succeeds with
  | done => exact ⟨[], rfl, rfl⟩
  | @case executor middle after case rest first later ih =>
    have between : ¬middle.isCancelled context = true :=
      fun cancelled => running (later.cancelled latched cancelled)
    have looked : ¬(executor.elapse context).isCancelled context = true :=
      fun cancelled => between (first.cancelled latched cancelled)
    obtain ⟨steps, ran⟩ := first.runSteps latched between 1
    obtain ⟨reports, others, passed⟩ := ih running
    have whole : (executor.elapse context).runCase context workflow case =
        (⟨case.name, case.comments, steps, none⟩, middle) := by
      rw [runCase, ran]
    refine ⟨⟨case.name, case.comments, steps, none⟩ :: reports, ?_, ?_⟩
    · rw [runCases_cons _ _ executor _ _ (Bool.eq_false_iff.mpr looked), whole]
      dsimp only
      rw [others]
    · rw [List.all_cons, passed]
      rfl

private theorem runDocument_sound {executor after : Executor σ} {document : Document} {report : RunReport}
    (ran : executor.runDocument context document = (report, after))
    (passed : report.passed = true) :
    (∃ middle, SucceedsAll context document.workflow executor document.cases middle ∧
      after = middle.elapse context) ∧ ¬after.isCancelled context = true := by
  rw [runDocument] at ran
  cases ran
  simp only [RunReport.passed, Bool.and_eq_true, Bool.not_eq_true', Bool.or_eq_false_iff] at passed
  obtain ⟨⟨finished, running⟩, passed⟩ := passed
  exact ⟨⟨_, runCases_sound executor _ finished passed, rfl⟩, Bool.eq_false_iff.mp running⟩

private theorem SucceedsAll.runDocument (latched : context.Latched) {executor middle : Executor σ}
    {document : Document}
    (succeeds : SucceedsAll context document.workflow executor document.cases middle)
    (running : ¬(middle.elapse context).isCancelled context = true) :
    ∃ report, executor.runDocument context document = (report, middle.elapse context) ∧
      report.passed = true := by
  obtain ⟨reports, ran, passed⟩ := succeeds.runCases latched
    fun cancelled => running (elapse_cancelled latched cancelled)
  have still : context.cancelled (middle.elapse context).state = false := Bool.eq_false_iff.mpr running
  refine ⟨⟨document.workflow, reports, false⟩, ?_, ?_⟩
  · rw [Executor.runDocument, ran]
    simp only [still, Bool.or_self]
  · rw [RunReport.passed, passed]
    rfl

end Reports

end Executor

namespace CommandLine

/-- All of the files can be loaded, and their steps are executed and succeed. Time passes before each
file and at the end of each document. -/
inductive FilesSucceed (context : RunContext σ) (environment : Environment) (settings : Settings) :
    Executor σ → FileSystem → List String → Executor σ → FileSystem → Prop
  | done {executor files} : FilesSucceed context environment settings executor files [] executor files
  | file {executor middle after : Executor σ} {files prepared left : FileSystem} {path : String}
      {rest : List String} {document : Document}
      (loaded : loadScenario environment settings files path = (.ok document, prepared))
      (succeeds : Executor.SucceedsAll context document.workflow (executor.elapse context)
        document.cases middle)
      (later : FilesSucceed context environment settings (middle.elapse context) prepared rest after
        left) :
      FilesSucceed context environment settings executor files (path :: rest) after left

section Files

variable {context : RunContext σ} {environment : Environment} {settings : Settings}

private theorem FilesSucceed.cancelled (latched : context.Latched) {executor after : Executor σ}
    {files left : FileSystem} {paths : List String}
    (succeed : FilesSucceed context environment settings executor files paths after left)
    (cancelled : executor.isCancelled context = true) : after.isCancelled context = true := by
  induction succeed with
  | done => exact cancelled
  | file _ succeeds _ ih =>
    exact ih (Executor.elapse_cancelled latched
      (succeeds.cancelled latched (Executor.elapse_cancelled latched cancelled)))

theorem allPassed_cons (path : String) (rest : List String) (report : FileReport)
    (reports : List FileReport) :
    allPassed (path :: rest) (report :: reports) =
      (report.report.passed && allPassed rest reports) := by
  simp [allPassed, Bool.and_assoc]

private theorem runFiles_sound (executor : Executor σ) (files : FileSystem)
    (paths : List String) {reports : List FileReport}
    (ended : (runFiles context environment settings executor files paths).reports = .ok reports)
    (passed : allPassed paths reports = true) :
    let batch := runFiles context environment settings executor files paths
    FilesSucceed context environment settings executor files paths batch.executor batch.files ∧
      (paths ≠ [] → ¬batch.executor.isCancelled context = true) := by
  induction paths generalizing executor files reports with
  | nil => exact ⟨.done, fun nonempty => absurd rfl nonempty⟩
  | cons path rest ih =>
    rw [runFiles_cons] at ended ⊢
    by_cases looked : context.cancelled (executor.elapse context).state = true
    -- files that were passed over have no reports, which the count tells
    · rw [if_pos looked] at ended
      cases ended
      cases passed
    rw [if_neg looked] at ended ⊢
    cases loaded : loadScenario environment settings files path with
    | mk result prepared =>
      rw [loaded] at ended
      cases result with
      | error failure => cases ended
      | ok document =>
        cases ran : (executor.elapse context).runDocument context document with
        | mk report after =>
          dsimp only at ended ⊢
          rw [ran] at ended ⊢
          dsimp only at ended ⊢
          cases others : (runFiles context environment settings after prepared rest).reports with
          | error failure =>
            rw [others] at ended
            cases ended
          | ok later =>
            rw [others] at ended
            cases ended
            rw [allPassed_cons, Bool.and_eq_true] at passed
            obtain ⟨⟨middle, succeeds, rfl⟩, running⟩ := Executor.runDocument_sound ran passed.1
            obtain ⟨succeed, still⟩ := ih _ _ others passed.2
            refine ⟨.file loaded succeeds succeed, fun _ => ?_⟩
            cases rest with
            | nil => exact running
            | cons next rest => exact still (List.cons_ne_nil next rest)

private theorem FilesSucceed.runFiles (latched : context.Latched) {executor after : Executor σ}
    {files left : FileSystem} {paths : List String}
    (succeed : FilesSucceed context environment settings executor files paths after left)
    (running : ¬after.isCancelled context = true) :
    ∃ reports, runFiles context environment settings executor files paths =
      { reports := .ok reports, executor := after, files := left } ∧
        allPassed paths reports = true := by
  induction succeed with
  | done => exact ⟨[], rfl, rfl⟩
  | @file executor middle after files prepared left path rest document loaded succeeds later ih =>
    have ended : ¬(middle.elapse context).isCancelled context = true :=
      fun cancelled => running (later.cancelled latched cancelled)
    have looked : ¬(executor.elapse context).isCancelled context = true := fun cancelled =>
      ended (Executor.elapse_cancelled latched (succeeds.cancelled latched cancelled))
    obtain ⟨reports, ran, passed⟩ := ih running
    obtain ⟨report, whole, good⟩ := succeeds.runDocument latched ended
    refine ⟨⟨path, report⟩ :: reports, ?_, ?_⟩
    · rw [runFiles_cons, if_neg (show ¬context.cancelled _ = true from looked), loaded]
      dsimp only
      rw [whole]
      dsimp only
      rw [ran]
      rfl
    · rw [allPassed_cons, passed, good]
      rfl

end Files

private theorem runContext_latched (surroundings : Surroundings σ) (settings : Settings) (dryRun : Bool) :
    (runContext surroundings settings dryRun).Latched where
  elapse := surroundings.interruption.elapse_fired
  connect := by
    intro workflow state opened connected cancelled
    unfold runContext sessions at connected
    dsimp only at connected
    split at connected
    · split at connected <;> cases connected <;> exact cancelled
    · cases connected
      exact cancelled
  call := by
    intro workflow call state cancelled
    unfold runContext sessions
    dsimp only
    split
    next endpoint =>
      split
      · exact cancelled
      · unfold HttpSession.provider
        dsimp only
        split
        · exact cancelled
        next url _ =>
          have kept := surroundings.interruption.answer_fired
            { url, instruction := call.instruction } state cancelled
          split <;> rename_i answered <;> rw [answered] at kept <;> exact kept
    · exact cancelled

private theorem runCommand_of_paths (surroundings : Surroundings σ) (settings : Settings)
    (format : OutputFormat) (named : List String) (dryRun : Bool) (world : World σ)
    {paths : List String}
    (listed : (if named.isEmpty then world.files.scenarioFiles settings.scenariosDirectory
      else .ok named) = .ok paths)
    (nonempty : paths ≠ []) :
    runCommand surroundings settings format named dryRun world =
      runAndReport surroundings settings format dryRun world paths fun reports files =>
        (.ok (allPassed paths reports), files) := by
  rw [runCommand, listed]
  cases paths with
  | nil => exact absurd rfl nonempty
  | cons path rest => rfl

/-- The verdict on files that are named, or else found in the scenario directory, is true exactly if
all of them can be loaded, all steps of all of their cases are executed and succeed, in order, and the
command was not interrupted by the end of the last document. What these steps leave is then what became
of the files and of the server. -/
theorem runCommand_verdict (surroundings : Surroundings σ) (settings : Settings)
    (format : OutputFormat) (named : List String) (dryRun : Bool) (world : World σ)
    (paths : List String)
    (listed : (if named.isEmpty then world.files.scenarioFiles settings.scenariosDirectory
      else .ok named) = .ok paths)
    (nonempty : paths ≠ []) :
    let ending := runCommand surroundings settings format named dryRun world
    let succeed := FilesSucceed (runContext surroundings settings dryRun) surroundings.environment
      settings (executor surroundings settings world) world.files paths
    (ending.verdict = .ok true ↔
      ∃ after left, succeed after left ∧ surroundings.interruption.fired after.state = false) ∧
    ∀ after left, succeed after left → surroundings.interruption.fired after.state = false →
      ending.world = { files := left, server := after.state } := by
  intro ending succeed
  have latched := runContext_latched surroundings settings dryRun
  have opened : ending = runAndReport surroundings settings format dryRun world paths fun reports files =>
      (.ok (allPassed paths reports), files) :=
    runCommand_of_paths _ _ _ _ _ _ listed nonempty
  have complete : ∀ after left, succeed after left →
      surroundings.interruption.fired after.state = false →
      ending.verdict = .ok true ∧ ending.world = { files := left, server := after.state } := by
    intro after left good running
    obtain ⟨reports, ran, passed⟩ := good.runFiles latched (Bool.eq_false_iff.mp running)
    rw [opened, runAndReport, ran]
    exact ⟨congrArg Except.ok passed, rfl⟩
  refine ⟨⟨?_, ?_⟩, fun after left good running => (complete after left good running).2⟩
  · intro good
    rw [opened, runAndReport] at good
    dsimp only at good
    cases ended : (runFiles (runContext surroundings settings dryRun) surroundings.environment settings
        (executor surroundings settings world) world.files paths).reports with
    | error failure =>
      rw [ended] at good
      cases good
    | ok reports =>
      rw [ended] at good
      obtain ⟨sound, running⟩ := runFiles_sound _ _ _ ended (Except.ok.inj good)
      exact ⟨_, _, sound, Bool.eq_false_iff.mpr (running nonempty)⟩
  · rintro ⟨after, left, good, running⟩
    exact (complete after left good running).1

/-- A command that is interrupted after it has looked a number of times whether it is. -/
def impatient (looks : Nat) : Surroundings Nat where
  environment := .empty
  server := { answer := fun _ state => (none, state) }
  interruption :=
    { fired := (looks < ·)
      elapse := (· + 1)
      elapse_fired := by simp; omega
      answer_fired := by simp }

set_option maxRecDepth 10000 in
/-- With one file of one step the command looks four times whether it is interrupted, the last time at
the end of the document. A command that is interrupted just before has no good verdict, although the
step succeeds. -/
theorem runCommand_verdict_four :
    let world : World Nat := { files := (twoChanged "## Pay\n".toUTF8).files, server := 0 }
    (∃ after left, FilesSucceed (runContext (impatient 4) plainSettings true)
        (impatient 4).environment plainSettings (executor (impatient 4) plainSettings world)
        world.files ["s/a.txt"] after left ∧ after.state ≤ 4) ∧
      ¬(runCommand (impatient 3) plainSettings .human ["s/a.txt"] true world).verdict = .ok true := by
  intro world
  constructor
  · obtain ⟨after, left, succeed, running⟩ := (runCommand_verdict (impatient 4) plainSettings
      .human ["s/a.txt"] true world ["s/a.txt"] rfl (by simp)).1.mp (by decide +kernel)
    exact ⟨after, left, succeed, by simpa [impatient] using running⟩
  · decide +kernel

end CommandLine

end TextScenario
