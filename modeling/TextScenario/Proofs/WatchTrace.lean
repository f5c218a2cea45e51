import TextScenario.Proofs.ChangeMarks
import TextScenario.Proofs.WatchRecords

/-! A run of the monitor as its scans and deliveries. Each of them is what the monitor does in the
state that the deliveries before it have left. -/

namespace TextScenario

/-- A scan of the files with its result, or a delivery. -/
inductive WatchEvent where
  | scanned (files : FileSystem) (result : Except FileFailure (List ScenarioChange))
  | delivered (delivery : Delivery)

def WatchEvent.delivery? : WatchEvent → Option Delivery
  | .scanned _ _ => none
  | .delivered delivery => some delivery

def deliveriesOf (events : List WatchEvent) : List Delivery :=
  events.filterMap WatchEvent.delivery?

namespace Monitor

/-- What happens in a run, from the poll that is due at a given time on. -/
def trace (options : MonitorOptions) (stop : Nat) : Nat → Monitor → Timeline → Nat → List Callback →
    List WatchEvent
  | 0, _, _, _, _ => []
  | fuel + 1, monitor, timeline, due, callbacks =>
    let poll := max timeline.now due
    if stop ≤ timeline.now ∨ stop < poll then []
    else
      let timeline := timeline.advance poll
      let due := nextPoll options due poll
      let polled := WatchEvent.scanned timeline.files (monitor.fresh timeline.files)
      match monitor.fresh timeline.files with
      | .error _ => [polled]
      | .ok [] => polled :: trace options stop fuel monitor timeline due callbacks
      | .ok _ =>
        let settled := timeline.now + options.debounce
        if stop < settled then [polled]
        else
          let timeline := timeline.advance settled
          let rescanned := WatchEvent.scanned timeline.files (monitor.fresh timeline.files)
          match monitor.fresh timeline.files with
          | .error _ => [polled, rescanned]
          | .ok [] => polled :: rescanned :: trace options stop fuel monitor timeline due callbacks
          | .ok batch =>
            let callback := callbacks.head?.getD {}
            let answered := timeline.during callback
            let delivery :=
              { time := timeline.now, batch, ran := callback.ran,
                before := timeline.files, after := answered.files }
            let (result, monitor, files) :=
              (monitor.deliver batch).finish answered.files batch callback.ran
            match result with
            | .error _ => [polled, rescanned, .delivered delivery]
            | .ok () =>
              polled :: rescanned :: .delivered delivery ::
                trace options stop fuel monitor { answered with files } due (callbacks.drop 1)

/-- The deliveries of a run are those of its trace. -/
theorem trace_deliveries (options : MonitorOptions) (stop fuel : Nat) (monitor : Monitor)
    (timeline : Timeline) (due : Nat) (callbacks : List Callback) :
    deliveriesOf (trace options stop fuel monitor timeline due callbacks) =
      (watch options stop fuel monitor timeline due callbacks).deliveries := by
  induction fuel generalizing monitor timeline due callbacks with
  | zero => rfl
  | succ fuel ih =>
    rw [trace, watch]
    dsimp only
    by_cases ended : stop ≤ timeline.now ∨ stop < max timeline.now due
    · simp only [if_pos ended]
      rfl
    simp only [if_neg ended]
    generalize timeline.advance (max timeline.now due) = timeline
    cases polled : monitor.fresh timeline.files with
    | error failure => rfl
    | ok changes =>
      cases changes with
      | nil => exact ih _ _ _ _
      | cons change changes =>
        dsimp only
        by_cases early : stop < timeline.now + options.debounce
        · simp only [if_pos early]
          rfl
        simp only [if_neg early]
        generalize timeline.advance (timeline.now + options.debounce) = timeline
        cases rescanned : monitor.fresh timeline.files with
        | error failure => rfl
        | ok batch =>
          cases batch with
          | nil => exact ih _ _ _ _
          | cons first batch =>
            dsimp only
            cases marked : ((monitor.deliver (first :: batch)).finish
                (timeline.during (callbacks.head?.getD {})).files (first :: batch)
                (callbacks.head?.getD {}).ran).1 with
            | error failure => rfl
            | ok => exact congrArg _ (ih _ _ _ _)

/-- The monitor after a delivery and what followed from it. -/
def past (monitor : Monitor) (delivery : Delivery) : Monitor :=
  ((monitor.deliver delivery.batch).finish delivery.after delivery.batch delivery.ran).2.1

/-- A trace of a monitor in which all files are well formed. -/
inductive Performs : Monitor → List WatchEvent → Prop
  | done (monitor : Monitor) : Performs monitor []
  | scan {monitor : Monitor} {files : FileSystem}
    {result : Except FileFailure (List ScenarioChange)} {rest : List WatchEvent}
    (wellFormed : files.WellFormed) (fresh : monitor.fresh files = result)
    (later : Performs monitor rest) :
    Performs monitor (.scanned files result :: rest)
  | delivery {monitor : Monitor} {delivery : Delivery} {rest : List WatchEvent}
    (wellFormed : delivery.before.WellFormed) (some : delivery.batch ≠ [])
    (fresh : monitor.fresh delivery.before = .ok delivery.batch)
    (later : Performs (monitor.past delivery) rest) :
    Performs monitor (.delivered delivery :: rest)

end Monitor

/-- Edits that leave files well formed. -/
def KeepsForm (edit : FileSystem → FileSystem) : Prop :=
  ∀ files, files.WellFormed → (edit files).WellFormed

/-- Files that are well formed now and after every edit to come. -/
structure Timeline.WellFormed (timeline : Timeline) : Prop where
  files : timeline.files.WellFormed
  edits : ∀ edit ∈ timeline.edits, KeepsForm edit.2

namespace Timeline.WellFormed

variable {timeline : Timeline}

private theorem advance (wellFormed : timeline.WellFormed) (moment : Nat) :
    (timeline.advance moment).WellFormed where
  files := by
    have each : ∀ edit ∈ timeline.edits.takeWhile (·.1 ≤ moment), KeepsForm edit.2 :=
      fun edit due => wellFormed.edits edit ((List.takeWhile_sublist _).subset due)
    have start := wellFormed.files
    simp only [Timeline.advance]
    generalize timeline.edits.takeWhile (·.1 ≤ moment) = due at each
    generalize timeline.files = files at start
    induction due generalizing files with
    | nil => exact start
    | cons edit rest ih =>
      exact ih (fun other inside => each other (.tail _ inside)) _ (each edit (.head _) files start)
  edits edit later := wellFormed.edits edit (List.mem_of_mem_drop later)

private theorem during (wellFormed : timeline.WellFormed) {callback : Callback}
    (keeps : KeepsForm callback.edit) : (timeline.during callback).WellFormed := by
  have edited : Timeline.WellFormed { timeline with files := callback.edit timeline.files } :=
    { files := keeps _ wellFormed.files, edits := wellFormed.edits }
  exact edited.advance _

end Timeline.WellFormed

namespace Monitor

theorem finish_ran {monitor later : Monitor} {files after : FileSystem} {batch : List ScenarioChange}
    {result : Except FileFailure Unit}
    (finished : monitor.finish files batch true = (result, later, after)) :
    monitor.detector.mark files (batch.map (·.file)) = (result, later.detector, after) := by
  rw [finish, if_pos rfl] at finished
  cases marked : monitor.detector.mark files (batch.map (·.file)) with
  | mk outcome rest =>
    rw [marked] at finished
    cases finished
    rfl

private theorem finish_wellFormed {monitor after : Monitor} {files others : FileSystem}
    {batch : List ScenarioChange} {ran : Bool} (wellFormed : files.WellFormed)
    (finished : monitor.finish files batch ran = (.ok (), after, others)) : others.WellFormed := by
  cases ran with
  | false =>
    cases finished
    exact wellFormed
  | true =>
    obtain ⟨-, -, saved⟩ := ChangeDetector.mark_ok (finish_ran finished)
    exact ChangeCache.save_wellFormed wellFormed saved

theorem trace_performs (options : MonitorOptions) (stop fuel : Nat) (monitor : Monitor)
    (timeline : Timeline) (due : Nat) (callbacks : List Callback) (wellFormed : timeline.WellFormed)
    (keeps : ∀ callback ∈ callbacks, KeepsForm callback.edit) :
    Performs monitor (trace options stop fuel monitor timeline due callbacks) := by
  induction fuel generalizing monitor timeline due callbacks with
  | zero => exact .done monitor
  | succ fuel ih =>
    rw [trace]
    dsimp only
    by_cases ended : stop ≤ timeline.now ∨ stop < max timeline.now due
    · simp only [if_pos ended]
      exact .done monitor
    simp only [if_neg ended]
    have polling := wellFormed.advance (max timeline.now due)
    generalize timeline.advance (max timeline.now due) = timeline at polling
    cases polled : monitor.fresh timeline.files with
    | error failure => exact .scan polling.files polled (.done monitor)
    | ok changes =>
      cases changes with
      | nil => exact .scan polling.files polled (ih _ _ _ _ polling keeps)
      | cons change changes =>
        dsimp only
        by_cases early : stop < timeline.now + options.debounce
        · rw [if_pos early]
          exact .scan polling.files polled (.done monitor)
        rw [if_neg early]
        have settling := polling.advance (timeline.now + options.debounce)
        generalize timeline.advance (timeline.now + options.debounce) = timeline at settling
        cases rescanned : monitor.fresh timeline.files with
        | error failure =>
          exact .scan polling.files polled (.scan settling.files rescanned (.done monitor))
        | ok batch =>
          cases batch with
          | nil =>
            exact .scan polling.files polled
              (.scan settling.files rescanned (ih _ _ _ _ settling keeps))
          | cons first batch =>
            dsimp only
            have kept : KeepsForm (callbacks.head?.getD {}).edit := by
              cases callbacks with
              | nil => exact fun files wellFormed => wellFormed
              | cons callback rest => exact keeps callback (.head _)
            have answered := settling.during kept
            generalize timeline.during (callbacks.head?.getD {}) = answer at answered
            cases marked : (monitor.deliver (first :: batch)).finish answer.files (first :: batch)
                (callbacks.head?.getD {}).ran with
            | mk result state =>
              obtain ⟨after, files⟩ := state
              cases result with
              | error failure =>
                refine .scan polling.files polled (.scan settling.files rescanned ?_)
                exact .delivery settling.files (List.cons_ne_nil _ _) rescanned (.done _)
              | ok =>
                refine .scan polling.files polled (.scan settling.files rescanned ?_)
                refine .delivery settling.files (List.cons_ne_nil _ _) rescanned ?_
                simp only [past, marked]
                refine ih _ _ _ _ ⟨finish_wellFormed answered.files marked, answered.edits⟩ ?_
                intro callback later
                exact keeps callback (List.mem_of_mem_drop later)

end Monitor

end TextScenario
