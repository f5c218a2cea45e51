import TextScenario.Proofs.SessionCalls
import TextScenario.Session.Faults

/-! Cancelled runs. A run that is cancelled while a certain call is being made does what the whole run
does, up to the step with that call. Outcomes depend on the step and the script only, so the two runs
can be compared step by step, with no more in common than the calls that are left. -/

namespace TextScenario

variable {σ : Type}

def RunReport.outcomes (report : RunReport) : List Outcome :=
  (report.cases.flatMap (·.steps)).map (·.outcome)

namespace Outcome

def sent (outcomes : List Outcome) : Nat :=
  outcomes.countP (·.call?.isSome)

/-- The outcomes up to the one with a certain call, or all if there are not as many calls. -/
def upToCall : Nat → List Outcome → List Outcome
  | 0, _ => []
  | _ + 1, [] => []
  | calls + 1, outcome :: rest =>
    outcome :: upToCall (if outcome.call?.isSome then calls else calls + 1) rest

theorem upToCall_zero (outcomes : List Outcome) : upToCall 0 outcomes = [] := by
  cases outcomes <;> rfl

theorem upToCall_nil (calls : Nat) : upToCall calls [] = [] := by
  cases calls <;> rfl

theorem sent_cons (outcome : Outcome) (rest : List Outcome) :
    sent (outcome :: rest) = sent rest + if outcome.call?.isSome then 1 else 0 :=
  List.countP_cons

theorem sent_append (first second : List Outcome) : sent (first ++ second) = sent first + sent second :=
  List.countP_append

private theorem upToCall_prefix (calls : Nat) (outcomes : List Outcome) : upToCall calls outcomes <+: outcomes := by
  fun_induction upToCall calls outcomes with
  | case1 => exact List.nil_prefix
  | case2 => exact List.prefix_rfl
  | case3 calls outcome rest ih => exact List.prefix_cons_inj outcome |>.mpr ih

theorem upToCall_append (calls : Nat) (first second : List Outcome) :
    upToCall calls (first ++ second) =
      upToCall calls first ++ upToCall (calls - sent first) second := by
  fun_induction upToCall calls first with
  | case1 first => simp [upToCall]
  | case2 calls => simp [sent]
  | case3 calls outcome rest ih =>
    have left : calls + 1 - sent (outcome :: rest) =
        (if outcome.call?.isSome then calls else calls + 1) - sent rest := by
      rw [sent_cons]
      split <;> omega
    rw [List.cons_append, upToCall, ih, left, List.cons_append]

private theorem upToCall_calls (calls : Nat) (outcomes : List Outcome) :
    (upToCall calls outcomes).filterMap call? = (outcomes.filterMap call?).take calls := by
  fun_induction upToCall calls outcomes with
  | case1 => simp
  | case2 => simp
  | case3 calls outcome rest ih =>
    cases made : outcome.call? with
    | none =>
      rw [made] at ih
      rw [List.filterMap_cons_none made, List.filterMap_cons_none made]
      exact ih
    | some call =>
      rw [made] at ih
      rw [List.filterMap_cons_some made, List.filterMap_cons_some made]
      exact congrArg (call :: ·) ih

theorem sent_eq (outcomes : List Outcome) : sent outcomes = (outcomes.filterMap call?).length := by
  rw [sent, List.length_filterMap_eq_countP]

private theorem upToCall_of_lt {calls : Nat} {outcomes : List Outcome} (fewer : sent outcomes < calls) :
    upToCall calls outcomes = outcomes := by
  fun_induction upToCall calls outcomes with
  | case1 => omega
  | case2 => rfl
  | case3 calls outcome rest ih =>
    rw [sent_cons] at fewer
    rw [ih]
    split at fewer <;> split <;> first | omega | contradiction

private theorem upToCall_last {number : Nat} {outcomes : List Outcome} (positive : 0 < number)
    (enough : number ≤ sent outcomes) :
    ∃ earlier last call, upToCall number outcomes = earlier ++ [last] ∧ last.call? = some call ∧
      (earlier.filterMap call?).length + 1 = number := by
  obtain ⟨number, rfl⟩ := Nat.exists_eq_succ_of_ne_zero (Nat.pos_iff_ne_zero.mp positive)
  induction outcomes generalizing number with
  | nil => simp [sent] at enough
  | cons outcome rest ih =>
    rw [sent_cons] at enough
    cases made : outcome.call? with
    | none =>
      have later : number + 1 ≤ sent rest := by simpa [made] using enough
      obtain ⟨earlier, last, call, same, called, count⟩ := ih number positive later
      exact ⟨outcome :: earlier, last, call, by simp [upToCall, made, same], called,
        by simpa [made] using count⟩
    | some call =>
      cases number with
      | zero => exact ⟨[], outcome, call, by simp [upToCall, made, upToCall_zero], made, rfl⟩
      | succ number =>
        have later : number + 1 ≤ sent rest := by simpa [made] using enough
        obtain ⟨earlier, last, call, same, called, count⟩ := ih number (Nat.succ_pos number) later
        exact ⟨outcome :: earlier, last, call, by simp [upToCall, made, same], called,
          by simpa [made] using count⟩

end Outcome

namespace Executor

section Logged
variable {script : Script} {context : RunContext σ} {log : σ → SessionLog}

/-- What steps of one workflow leave in the log. -/
structure Logged (log : σ → SessionLog) (workflow : WorkflowId) (before after : Executor σ)
    (outcomes : List Outcome) : Prop where
  workflow : ∀ outcome ∈ outcomes, outcome.workflow = workflow
  state : log after.state = outcomes.foldl SessionLog.note (log before.state)

theorem Logged.trans {workflow : WorkflowId} {before middle after : Executor σ}
    {outcomes later : List Outcome} (first : Logged log workflow before middle outcomes)
    (second : Logged log workflow middle after later) :
    Logged log workflow before after (outcomes ++ later) := by
  refine ⟨?_, by rw [second.state, first.state, List.foldl_append]⟩
  intro outcome member
  rcases List.mem_append.mp member with earlier | last
  · exact first.workflow outcome earlier
  · exact second.workflow outcome last

theorem Logged.calls {workflow : WorkflowId} {before after : Executor σ}
    {outcomes : List Outcome} (logged : Logged log workflow before after outcomes)
    (fresh : log before.state = []) (other : WorkflowId) :
    (log after.state).calls other =
      if workflow = other then outcomes.filterMap Outcome.call? else [] := by
  rw [logged.state, fresh, SessionLog.foldl_note_calls]
  split
  next same =>
    have all : outcomes.filter (·.workflow = other) = outcomes := by
      rw [List.filter_eq_self]
      intro outcome member
      simp [logged.workflow outcome member, same]
    rw [all]
    rfl
  next different =>
    have none : outcomes.filter (·.workflow = other) = [] := by
      rw [List.filter_eq_nil_iff]
      intro outcome member
      simp [logged.workflow outcome member, different]
    rw [none]
    rfl

private theorem executeParsed_logged (followed : script.Followed context.sessions log) (executor : Executor σ)
    (action : String) (workflow : WorkflowId) :
    let result := executor.executeParsed context.toExecutionContext action workflow
    Logged log workflow executor result.2 [result.1] := by
  refine ⟨?_, (finish_executed followed executor action workflow _).state⟩
  intro outcome member
  obtain rfl := List.mem_singleton.mp member
  exact (executor.executeParsed_names context.toExecutionContext action workflow).2

private theorem runSteps_logged (followed : script.Followed context.sessions log)
    (still : ∀ state, log (context.elapse state) = log state) (workflow : WorkflowId)
    (executor : Executor σ) (place : Nat) (steps : List Step) :
    let (reports, _, after) := executor.runSteps context workflow place steps
    Logged log workflow executor after (reports.map (·.outcome)) := by
  induction steps generalizing executor place with
  | nil => exact ⟨by simp, rfl⟩
  | cons step rest ih =>
    have waited : Logged log workflow executor (executor.elapse context) [] := ⟨by simp, still _⟩
    rw [runSteps]
    dsimp only
    split
    next => exact waited
    next =>
      have executed := executeParsed_logged followed (executor.elapse context) step.action workflow
      generalize (executor.elapse context).executeParsed context.toExecutionContext step.action workflow =
        result at executed
      obtain ⟨outcome, middle⟩ := result
      split
      next => exact (waited.trans executed).trans (ih middle (place + 1))
      next => exact waited.trans executed

private theorem runCases_logged (followed : script.Followed context.sessions log)
    (still : ∀ state, log (context.elapse state) = log state) (workflow : WorkflowId)
    (executor : Executor σ) (cases : List Case) :
    let (reports, _, after) := executor.runCases context workflow cases
    Logged log workflow executor after ((reports.flatMap (·.steps)).map (·.outcome)) := by
  induction cases generalizing executor with
  | nil => exact ⟨by simp, rfl⟩
  | cons case rest ih =>
    have waited : Logged log workflow executor (executor.elapse context) [] := ⟨by simp, still _⟩
    rw [runCases]
    dsimp only
    split
    next => exact waited
    next =>
      have ran := runSteps_logged followed still workflow (executor.elapse context) 1 case.steps
      rw [runCase]
      generalize (executor.elapse context).runSteps context workflow 1 case.steps = result at ran
      obtain ⟨steps, error, middle⟩ := result
      have later := (waited.trans ran).trans (ih middle)
      simpa using later

theorem runDocument_logged (followed : script.Followed context.sessions log)
    (still : ∀ state, log (context.elapse state) = log state) (executor : Executor σ)
    (document : Document) :
    let result := executor.runDocument context document
    Logged log document.workflow executor result.2 result.1.outcomes := by
  have ran := runCases_logged followed still document.workflow executor document.cases
  rw [runDocument]
  generalize executor.runCases context document.workflow document.cases = result at ran
  obtain ⟨reports, stopped, middle⟩ := result
  exact ⟨ran.workflow, (still middle.state).trans ran.state⟩

private theorem runDocument_history (context : RunContext σ) (executor : Executor σ) (document : Document) :
    let result := executor.runDocument context document
    result.2.history = executor.history ++ result.1.outcomes.map Outcome.record := by
  have run := runCases_run context document.workflow executor document.cases
  rw [runDocument]
  generalize executor.runCases context document.workflow document.cases = result at run
  obtain ⟨reports, stopped, middle⟩ := result
  dsimp only [RunReport.outcomes]
  rw [List.map_map]
  exact run.history

end Logged

end Executor

namespace Script

/-- A run that nothing cancels. -/
def wholeRun (script : Script) (limit : Option Nat) : RunContext SessionLog :=
  { sessions := script.provider, limit }

/-- A run that is cancelled when a certain call starts. -/
def cutRun (script : Script) (limit : Option Nat) (calls : Nat) : RunContext (Counted SessionLog) :=
  { sessions := ({ cancelAfter := some calls } : Faults).wrap script.provider
    limit
    cancelled := Counted.cancelled }

private theorem followed_cutRun (script : Script) (limit : Option Nat) (calls : Nat) :
    script.Followed (script.cutRun limit calls).sessions Counted.state :=
  ⟨fun _ _ => ⟨_, rfl, rfl⟩, fun _ _ _ => rfl, fun _ _ _ => rfl⟩

end Script

namespace Executor
variable (script : Script) (limit : Option Nat) {calls : Nat}

/-- So many calls are left until the run is cancelled, which it is when none is left. -/
structure Left (calls left : Nat) (executor : Executor (Counted SessionLog)) : Prop where
  started : executor.state.started + left = calls
  cancelled : executor.state.cancelled = (left == 0)

private theorem finish_left {left : Nat} {executor : Executor (Counted SessionLog)}
    (counted : Left calls (left + 1) executor) (action : String) (workflow : WorkflowId)
    (compiled : Except MissingParameters CompiledStep) :
    let result := executor.finish (script.cutRun limit calls).toExecutionContext action workflow compiled
    Left calls (left + 1 - Outcome.sent [result.1]) result.2 := by
  intro result
  have outcome : result.1 = script.outcomeOf limit action workflow compiled :=
    (finish_followed (script.followed_cutRun limit calls) executor action workflow compiled).1
  cases compiled with
  | error error =>
    have uncalled : Outcome.sent [result.1] = 0 := by
      rw [outcome]
      rfl
    rw [uncalled]
    exact ⟨counted.started, counted.cancelled⟩
  | ok step =>
    have called : Outcome.sent [result.1] = 1 := by
      rw [outcome, Script.outcomeOf, Outcome.sent, List.countP_singleton, script.outcome_call?]
      rfl
    rw [called, Nat.add_sub_cancel]
    have started := counted.started
    refine ⟨?_, ?_⟩
    · change executor.state.started + 1 + left = calls
      omega
    · change (executor.state.cancelled || some calls == some (executor.state.started + 1)) = (left == 0)
      rw [counted.cancelled, Bool.eq_iff_iff]
      simp
      omega

/-- What a cancelled run did, beside what the whole run did. -/
structure Cut (calls left : Nat) (after : Executor (Counted SessionLog)) (whole cut : List Outcome) :
    Prop where
  outcomes : cut = Outcome.upToCall left whole
  left : Left calls (left - Outcome.sent whole) after

theorem Cut.trans {left : Nat} {middle after : Executor (Counted SessionLog)}
    {whole cut laterWhole laterCut : List Outcome} (first : Cut calls left middle whole cut)
    (second : Cut calls (left - Outcome.sent whole) after laterWhole laterCut) :
    Cut calls left after (whole ++ laterWhole) (cut ++ laterCut) := by
  refine ⟨?_, ?_⟩
  · rw [first.outcomes, second.outcomes, Outcome.upToCall_append]
  · rw [Outcome.sent_append, ← Nat.sub_sub]
    exact second.left

private theorem Left.stopped {executor : Executor (Counted SessionLog)} (counted : Left calls 0 executor)
    (whole : List Outcome) : Cut calls 0 executor whole [] :=
  ⟨(Outcome.upToCall_zero whole).symm, by rwa [Nat.zero_sub]⟩

/-- A step that is executed in both runs comes to the same in both. -/
theorem executeParsed_cut {left : Nat} {whole : Executor SessionLog}
    {cut : Executor (Counted SessionLog)} (counted : Left calls (left + 1) cut)
    (translator : cut.translator = whole.translator) (action : String) (workflow : WorkflowId) :
    let first := whole.executeParsed (script.wholeRun limit).toExecutionContext action workflow
    let second := cut.executeParsed (script.cutRun limit calls).toExecutionContext action workflow
    second.1 = first.1 ∧ second.2.translator = first.2.translator ∧
      Cut calls (left + 1) second.2 [first.1] [second.1] := by
  intro first second
  have compiled : cut.compileParsed action workflow = whole.compileParsed action workflow := by
    rw [compileParsed, compileParsed, translator]
  have told : first.1 = script.outcomeOf limit action workflow (whole.compileParsed action workflow) :=
    (finish_followed script.followed_provider whole action workflow _).1
  have same : second.1 = first.1 := by
    rw [told, ← compiled]
    exact (finish_followed (script.followed_cutRun limit calls) cut action workflow _).1
  have translators : second.2.translator = first.2.translator :=
    (executeParsed_records _ cut action workflow).2.1.trans
      (translator.trans (executeParsed_records _ whole action workflow).2.1.symm)
  have left := finish_left script limit counted action workflow
    (cut.compileParsed action workflow)
  refine ⟨same, translators, ?_, same ▸ left⟩
  rw [same, Outcome.upToCall, Outcome.upToCall_nil]

theorem runSteps_cons (context : RunContext σ) (workflow : WorkflowId) (executor : Executor σ)
    (place : Nat) (step : Step) (rest : List Step)
    (running : context.cancelled (executor.elapse context).state = false) :
    let result := (executor.elapse context).executeParsed context.toExecutionContext step.action workflow
    let later := result.2.runSteps context workflow (place + 1) rest
    let report : StepReport := ⟨step.comment, step.isMultiline, result.1⟩
    executor.runSteps context workflow place (step :: rest) =
      if result.1.success then (report :: later.1, later.2) else ([report], result.1.error, result.2) := by
  rw [runSteps]
  simp [running]

private theorem runSteps_cut {left : Nat} {whole : Executor SessionLog} {cut : Executor (Counted SessionLog)}
    (counted : Left calls left cut) (translator : cut.translator = whole.translator)
    (workflow : WorkflowId) (place : Nat) (steps : List Step) :
    let first := whole.runSteps (script.wholeRun limit) workflow place steps
    let second := cut.runSteps (script.cutRun limit calls) workflow place steps
    Cut calls left second.2.2 (first.1.map (·.outcome)) (second.1.map (·.outcome)) := by
  induction steps generalizing left whole cut place with
  | nil => exact ⟨(Outcome.upToCall_nil left).symm, counted⟩
  | cons step rest ih =>
    cases left with
    | zero =>
      have stopped : cut.runSteps (script.cutRun limit calls) workflow place (step :: rest) =
          ([], some (cancellationText place), cut) := by
        rw [runSteps]
        exact if_pos counted.cancelled
      rw [stopped]
      exact counted.stopped _
    | succ left =>
      have waiting : Left calls (left + 1) (cut.elapse (script.cutRun limit calls)) := counted
      have compared := executeParsed_cut script limit waiting
        (show _ = (whole.elapse (script.wholeRun limit)).translator from translator) step.action workflow
      rw [runSteps_cons _ _ whole _ _ _ rfl, runSteps_cons _ _ cut _ _ _ counted.cancelled]
      generalize (whole.elapse (script.wholeRun limit)).executeParsed
        (script.wholeRun limit).toExecutionContext step.action workflow = first at compared
      generalize (cut.elapse (script.cutRun limit calls)).executeParsed
        (script.cutRun limit calls).toExecutionContext step.action workflow = second at compared
      obtain ⟨outcome, wholeAfter⟩ := first
      obtain ⟨_, cutAfter⟩ := second
      obtain ⟨rfl, translators, executed⟩ := compared
      dsimp only
      split
      next => exact executed.trans (ih executed.left translators (place + 1))
      next => exact executed

theorem runCases_cons (context : RunContext σ) (workflow : WorkflowId) (executor : Executor σ)
    (case : Case) (rest : List Case)
    (running : context.cancelled (executor.elapse context).state = false) :
    let ran := (executor.elapse context).runCase context workflow case
    let later := ran.2.runCases context workflow rest
    executor.runCases context workflow (case :: rest) = (ran.1 :: later.1, later.2) := by
  rw [runCases]
  simp [running]

private theorem runCases_cut {left : Nat} {whole : Executor SessionLog} {cut : Executor (Counted SessionLog)}
    (counted : Left calls left cut) (translator : cut.translator = whole.translator)
    (workflow : WorkflowId) (cases : List Case) :
    let first := whole.runCases (script.wholeRun limit) workflow cases
    let second := cut.runCases (script.cutRun limit calls) workflow cases
    Cut calls left second.2.2 ((first.1.flatMap (·.steps)).map (·.outcome))
        ((second.1.flatMap (·.steps)).map (·.outcome)) ∧
      (second.2.1 = true → second.2.2.state.cancelled = true) := by
  induction cases generalizing left whole cut with
  | nil =>
    exact ⟨⟨(Outcome.upToCall_nil left).symm, counted⟩, fun stopped => Bool.noConfusion stopped⟩
  | cons case rest ih =>
    cases left with
    | zero =>
      have stopped : cut.runCases (script.cutRun limit calls) workflow (case :: rest) =
          ([], true, cut) := by
        rw [runCases]
        exact if_pos counted.cancelled
      rw [stopped]
      exact ⟨counted.stopped _, fun _ => counted.cancelled⟩
    | succ left =>
      have waiting : Left calls (left + 1) (cut.elapse (script.cutRun limit calls)) := counted
      have compared := runSteps_cut script limit waiting
        (show _ = (whole.elapse (script.wholeRun limit)).translator from translator) workflow 1 case.steps
      have kept := (runCase_of (script.wholeRun limit) workflow
        (whole.elapse (script.wholeRun limit)) case).2.2
      have cutKept := (runCase_of (script.cutRun limit calls) workflow
        (cut.elapse (script.cutRun limit calls)) case).2.2
      rw [runCases_cons _ _ whole _ _ rfl, runCases_cons _ _ cut _ _ counted.cancelled]
      obtain ⟨later, stopped⟩ := ih compared.left (cutKept.trans (translator.trans kept.symm))
      refine ⟨?_, stopped⟩
      simp only [List.flatMap_cons, List.map_append]
      exact compared.trans later

private theorem runDocument_cut {left : Nat} {whole : Executor SessionLog}
    {cut : Executor (Counted SessionLog)} (counted : Left calls left cut)
    (translator : cut.translator = whole.translator) (document : Document) :
    let first := whole.runDocument (script.wholeRun limit) document
    let second := cut.runDocument (script.cutRun limit calls) document
    Cut calls left second.2 first.1.outcomes second.1.outcomes ∧
      second.1.cancelled = second.2.state.cancelled := by
  obtain ⟨compared, stopped⟩ :=
    runCases_cut script limit counted translator document.workflow document.cases
  refine ⟨⟨compared.outcomes, compared.left⟩, ?_⟩
  rw [runDocument]
  generalize cut.runCases (script.cutRun limit calls) document.workflow document.cases = second at stopped
  obtain ⟨reports, early, after⟩ := second
  cases early with
  | false => rfl
  | true => exact (stopped rfl).symm

end Executor

/-- A run of a document that is cancelled when the call with a certain number starts, beside the whole
run. The step with that call is completed and recorded, and it is the last one. -/
structure RunReport.CutShort (number : Nat) (document : Document)
    (whole : RunReport × Executor SessionLog) (cut : RunReport × Executor (Counted SessionLog)) :
    Prop where
  outcomes : cut.1.outcomes <+: whole.1.outcomes
  history : cut.2.history <+: whole.2.history
  recorded : cut.2.history = cut.1.outcomes.map Outcome.record
  calls : ∀ workflow, cut.2.state.state.calls workflow = (whole.2.state.calls workflow).take number
  fired : number ≤ (whole.2.state.calls document.workflow).length →
    cut.1.cancelled = true ∧ ∃ earlier last call, cut.1.outcomes = earlier ++ [last] ∧
      last.call? = some call ∧ (earlier.filterMap Outcome.call?).length + 1 = number ∧
      cut.2.state.state.calls document.workflow = earlier.filterMap Outcome.call? ++ [call]
  missed : (whole.2.state.calls document.workflow).length < number →
    cut.1.cancelled = false ∧ cut.1.outcomes = whole.1.outcomes

/-- Cancelling a run cuts it short after the step whose call it was cancelled at, and changes nothing
before that. -/
theorem Executor.runDocument_cutShort (script : Script) (limit : Option Nat) (translator : Translator)
    (document : Document) (number : Nat) (positive : 0 < number) :
    let whole : Executor SessionLog := { translator, state := [] }
    let cut : Executor (Counted SessionLog) := { translator, state := { state := [] } }
    RunReport.CutShort number document (whole.runDocument (script.wholeRun limit) document)
      (cut.runDocument (script.cutRun limit number) document) := by
  intro whole cut
  have counted : Left number number cut := by
    refine ⟨Nat.zero_add number, ?_⟩
    simp [cut, Nat.pos_iff_ne_zero.mp positive]
  have translators : cut.translator = whole.translator := rfl
  obtain ⟨compared, cancelled⟩ := runDocument_cut script limit counted translators document
  have followed : script.Followed (script.wholeRun limit).sessions id := script.followed_provider
  have wholeHistory := runDocument_history (script.wholeRun limit) whole document
  have cutHistory := runDocument_history (script.cutRun limit number) cut document
  have wholeCalls := (runDocument_logged followed (fun _ => rfl) whole document).calls rfl
  have cutCalls := (runDocument_logged (script.followed_cutRun limit number) (fun _ => rfl) cut
    document).calls rfl
  generalize whole.runDocument (script.wholeRun limit) document = first at *
  generalize cut.runDocument (script.cutRun limit number) document = second at *
  have total : (first.2.state.calls document.workflow).length = Outcome.sent first.1.outcomes := by
    rw [Outcome.sent_eq, show first.2.state.calls _ = _ from wholeCalls _, if_pos rfl]
  have reached : second.1.cancelled = (number - Outcome.sent first.1.outcomes == 0) :=
    cancelled.trans compared.left.cancelled
  refine ⟨?_, ?_, cutHistory, ?_, ?_, ?_⟩
  · rw [compared.outcomes]
    exact Outcome.upToCall_prefix number _
  · rw [cutHistory, wholeHistory, compared.outcomes]
    exact (Outcome.upToCall_prefix number _).map _
  · intro workflow
    rw [show first.2.state.calls _ = _ from wholeCalls _, cutCalls, compared.outcomes]
    split
    · exact Outcome.upToCall_calls number _
    · rw [List.take_nil]
  · rw [total]
    intro enough
    obtain ⟨earlier, last, call, same, called, count⟩ := Outcome.upToCall_last positive enough
    have performed := compared.outcomes.trans same
    refine ⟨?_, earlier, last, call, performed, called, count, ?_⟩
    · rw [reached, Nat.sub_eq_zero_of_le enough]
      rfl
    · rw [cutCalls, if_pos rfl, performed, List.filterMap_append, List.filterMap_cons_some called]
      rfl
  · rw [total]
    intro fewer
    refine ⟨?_, compared.outcomes.trans (Outcome.upToCall_of_lt fewer)⟩
    rw [reached, beq_eq_false_iff_ne]
    omega

private def refused : Script :=
  { failures := [("pay", "no card")] }

private def shop : Document where
  workflow := .default
  cases :=
    [{ name := "Pay", steps := [{ action := "open the shop" }, { action := "pay" }, { action := "read" }] },
     { name := "Leave", steps := [{ action := "close the shop" }] }]

private def rules : Translator :=
  { source := .inline [] {} }

/-- The run is cancelled during a step that fails anyway; the second case is not run then. -/
theorem runDocument_cutShort_refused :
    let whole := ({ translator := rules, state := [] } : Executor SessionLog).runDocument
      (refused.wholeRun none) shop
    let cut := ({ translator := rules, state := { state := [] } } : Executor (Counted SessionLog)).runDocument
      (refused.cutRun none 2) shop
    0 < 2 ∧ RunReport.CutShort 2 shop whole cut ∧
      whole.1.outcomes.map (·.action) = ["open the shop", "pay", "close the shop"] ∧
      cut.1.outcomes.map (·.action) = ["open the shop", "pay"] :=
  ⟨by decide, Executor.runDocument_cutShort refused none rules shop 2 (by decide), by decide +kernel,
    by decide +kernel⟩

end TextScenario
