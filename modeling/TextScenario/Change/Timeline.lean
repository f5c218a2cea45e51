import TextScenario.Change.Monitor
/-!
A monitor on a clock that jumps from event to event. Files are edited at set times and by the
callback; a poll that comes late moves all later polls.
-/

namespace TextScenario

structure MonitorOptions where
  pollInterval : Nat := 1000
  /-- How long files have to rest before a batch is delivered. -/
  debounce : Nat := 500
  deriving DecidableEq, Repr, Inhabited

/-- The files at some time, with the edits still to come in the order of their times. -/
structure Timeline where
  now : Nat := 0
  files : FileSystem
  edits : List (Nat × (FileSystem → FileSystem)) := []

def Timeline.advance (timeline : Timeline) (moment : Nat) : Timeline :=
  let due := timeline.edits.takeWhile (·.1 ≤ moment)
  { now := max timeline.now moment
    files := due.foldl (fun files edit => edit.2 files) timeline.files
    edits := timeline.edits.drop due.length }

structure Callback where
  edit : FileSystem → FileSystem := id
  duration : Nat := 0
  ran : Bool := true

/-- Lets the callback edit files and take its time. -/
def Timeline.during (timeline : Timeline) (callback : Callback) : Timeline :=
  { timeline with files := callback.edit timeline.files }.advance (timeline.now + callback.duration)

/-- A batch with the time of its delivery, what the callback answered, and the files before and after
the callback. -/
structure Delivery where
  time : Nat
  batch : List ScenarioChange
  ran : Bool
  before : FileSystem
  after : FileSystem

/-- The end of a run: an error, or the monitor. -/
structure Watched where
  deliveries : List Delivery
  timeline : Timeline
  result : Except FileFailure Monitor

namespace Monitor

/-- A late poll counts as missed if it is more than this many milliseconds late. -/
def tolerance : Nat := 5

/-- The time of the poll after one that was due at a time and took place at another. -/
def nextPoll (options : MonitorOptions) (due actual : Nat) : Nat :=
  if due + tolerance < actual then actual + options.pollInterval else due + options.pollInterval

/-- Watches until a moment, from the poll that is due at a given time on. The fuel bounds the number
of polls. -/
def watch (options : MonitorOptions) (stop : Nat) : Nat → Monitor → Timeline → Nat → List Callback →
    Watched
  | 0, monitor, timeline, _, _ => { deliveries := [], timeline, result := .ok monitor }
  | fuel + 1, monitor, timeline, due, callbacks =>
    let poll := max timeline.now due
    if stop ≤ timeline.now ∨ stop < poll then
      { deliveries := [], timeline := timeline.advance stop, result := .ok monitor }
    else
      let timeline := timeline.advance poll
      let due := nextPoll options due poll
      match monitor.fresh timeline.files with
      | .error failure => { deliveries := [], timeline, result := .error failure }
      | .ok [] => watch options stop fuel monitor timeline due callbacks
      | .ok _ =>
        let settled := timeline.now + options.debounce
        if stop < settled then
          { deliveries := [], timeline := timeline.advance stop, result := .ok monitor }
        else
          let timeline := timeline.advance settled
          match monitor.fresh timeline.files with
          | .error failure => { deliveries := [], timeline, result := .error failure }
          | .ok [] => watch options stop fuel monitor timeline due callbacks
          | .ok batch =>
            let callback := callbacks.head?.getD {}
            let answered := timeline.during callback
            let delivery :=
              { time := timeline.now, batch, ran := callback.ran,
                before := timeline.files, after := answered.files }
            let (result, monitor, files) :=
              (monitor.deliver batch).finish answered.files batch callback.ran
            let timeline := { answered with files }
            match result with
            | .error failure => { deliveries := [delivery], timeline, result := .error failure }
            | .ok () =>
              let rest := watch options stop fuel monitor timeline due (callbacks.drop 1)
              { rest with deliveries := delivery :: rest.deliveries }

end Monitor

end TextScenario
