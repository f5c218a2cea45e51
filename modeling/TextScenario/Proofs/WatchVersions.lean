import Mathlib
import TextScenario.Proofs.WatchTrace

/-! Versions that the monitor delivers. What a scan finds is decided by the cache and by the version of
each file that was delivered last; no version is delivered twice in a row. -/

namespace TextScenario

def latest? (changes : List ScenarioChange) (file : String) : Option String :=
  (changes.reverse.find? (·.file == file)).map (·.digest)

theorem latest?_append (earlier later : List ScenarioChange) (file : String) :
    latest? (earlier ++ later) file = (latest? later file).or (latest? earlier file) := by
  rw [latest?, List.reverse_append, List.find?_append]
  cases found : later.reverse.find? (·.file == file) with
  | none => simp [latest?, found]
  | some change => simp [latest?, found]

private theorem latest?_absent {changes : List ScenarioChange} {file : String}
    (absent : ∀ change ∈ changes, change.file ≠ file) : latest? changes file = none := by
  rw [latest?, Option.map_eq_none_iff, List.find?_eq_none]
  simpa using absent

private theorem latest?_of_mem {changes : List ScenarioChange}
    (ascending : (changes.map (·.file)).Pairwise (· < ·)) {change : ScenarioChange}
    (member : change ∈ changes) : latest? changes change.file = some change.digest := by
  obtain ⟨before, after, rfl⟩ := List.append_of_mem member
  rw [List.map_append, List.map_cons] at ascending
  obtain ⟨-, later, -⟩ := List.pairwise_append.mp ascending
  have apart : ∀ other ∈ after, other.file ≠ change.file := by
    intro other inside same
    have greater := (List.pairwise_cons.mp later).1 other.file (List.mem_map_of_mem inside)
    rw [same] at greater
    exact lt_irrefl _ greater
  rw [List.append_cons, latest?_append, latest?_append, latest?_absent apart]
  simp [latest?]

def changesOf (deliveries : List Delivery) : List ScenarioChange :=
  deliveries.flatMap (·.batch)

namespace Monitor

variable {monitor : Monitor} {files : FileSystem} {found : List ScenarioChange}

private theorem deliver_lookup (monitor : Monitor) (batch : List ScenarioChange) (file : String) :
    (monitor.deliver batch).delivered.lookup file =
      (latest? batch file).or (monitor.delivered.lookup file) := by
  rw [deliver]
  dsimp only
  induction batch using List.reverseRecOn with
  | nil => rfl
  | append_singleton earlier change ih =>
    rw [List.foldl_concat, Json.lookup_field, List.lookup_erased, ih, latest?_append]
    by_cases same : file = change.file
    · simp [same, latest?]
    · have absent : latest? [change] file = none :=
        latest?_absent (by simpa using Ne.symm same)
      simp [same, absent]

/-- A scan finds exactly the changes whose version was not delivered last, in the order of files. -/
theorem fresh_exact (wellFormed : files.WellFormed) (fresh : monitor.fresh files = .ok found) :
    (found.map (·.file)).Pairwise (· < ·) ∧ ∀ change, change ∈ found ↔
      (files.HasScenario monitor.detector.directory change.file ∧
        files.digest change.file = .ok change.digest ∧
          monitor.detector.cache.get? (files.cacheKey change.file) ≠ some change.digest) ∧
        monitor.delivered.lookup change.file ≠ some change.digest := by
  obtain ⟨changes, looked, fresh⟩ := Except.bind_ok fresh
  cases fresh
  obtain ⟨ascending, complete⟩ := ChangeDetector.changes_exact wellFormed looked
  refine ⟨ascending.sublist (List.filter_sublist.map _), ?_⟩
  intro change
  rw [List.mem_filter, complete]
  simp

/-- A scan for a scenario file comes to an end, unless a scenario file cannot be read. -/
theorem fresh_cases (wellFormed : files.WellFormed) {file : String}
    (scenario : files.HasScenario monitor.detector.directory file) :
    (∃ found, monitor.fresh files = .ok found) ∨
      ∃ other failure, files.HasScenario monitor.detector.directory other ∧
        files.digest other = .error failure ∧ monitor.fresh files = .error failure := by
  have scanned := monitor.detector.changes_scanned wellFormed
  cases looked : monitor.detector.changes files with
  | ok changes => exact .inl ⟨_, by rw [fresh, looked]; rfl⟩
  | error failure =>
    rw [looked] at scanned
    cases scanned with
    | @unread _ other _ _ listed _ unread =>
      have inside := (FileSystem.mem_scenarioFiles wellFormed listed).mp
        (List.mem_append_right _ (.head _) : other ∈ _)
      exact .inr ⟨other, failure, inside, unread, by rw [fresh, looked]; rfl⟩
    | unlisted unlisted =>
      obtain ⟨scenarios, listed⟩ := scenario.listed
      rw [listed] at unlisted
      cases unlisted

private theorem past_cache (monitor : Monitor) (delivery : Delivery) :
    (monitor.past delivery).detector.cache = Delivery.record monitor.detector.cache delivery := by
  rw [past, finish_cache, deliver_cache]

private theorem finish_detector (monitor : Monitor) (files : FileSystem) (batch : List ScenarioChange)
    (ran : Bool) :
    (monitor.finish files batch ran).2.1.detector.directory = monitor.detector.directory ∧
      (monitor.finish files batch ran).2.1.delivered = monitor.delivered := by
  rw [finish]
  split
  · refine ⟨?_, rfl⟩
    dsimp only
    rw [ChangeDetector.mark]
    split <;> rfl
  · exact ⟨rfl, rfl⟩

private theorem past_directory (monitor : Monitor) (delivery : Delivery) :
    (monitor.past delivery).detector.directory = monitor.detector.directory :=
  (finish_detector _ _ _ _).1

private theorem past_lookup (monitor : Monitor) (delivery : Delivery) (file : String) :
    (monitor.past delivery).delivered.lookup file =
      (latest? delivery.batch file).or (monitor.delivered.lookup file) := by
  rw [past, (finish_detector _ _ _ _).2, deliver_lookup]

/-- After deliveries the monitor knows what they have put in the cache, and the last version of each
file. -/
structure Knows (first : Monitor) (deliveries : List Delivery) (monitor : Monitor) : Prop where
  directory : monitor.detector.directory = first.detector.directory
  cache : monitor.detector.cache = deliveries.foldl Delivery.record first.detector.cache
  delivered : ∀ file, monitor.delivered.lookup file =
    (latest? (changesOf deliveries) file).or (first.delivered.lookup file)

private theorem foldl_past_knows (first : Monitor) (deliveries : List Delivery) :
    Knows first deliveries (deliveries.foldl past first) := by
  induction deliveries generalizing first with
  | nil => exact ⟨rfl, rfl, fun file => rfl⟩
  | cons delivery rest ih =>
    obtain ⟨directory, cache, delivered⟩ := ih (first.past delivery)
    refine ⟨?_, ?_, ?_⟩
    · rw [List.foldl_cons, directory, past_directory]
    · rw [List.foldl_cons, cache, past_cache, List.foldl_cons]
    · intro file
      rw [List.foldl_cons, delivered, past_lookup, ← Option.or_assoc, ← latest?_append]
      rfl

private theorem Performs.later {first : Monitor} {earlier later : List WatchEvent}
    (performs : Performs first (earlier ++ later)) :
    Performs ((deliveriesOf earlier).foldl past first) later := by
  induction earlier generalizing first with
  | nil => exact performs
  | cons event rest ih =>
    cases performs with
    | scan wellFormed fresh performs => exact ih performs
    | delivery wellFormed some fresh performs => exact ih performs

/-- A scan in a trace is one of a monitor that knows the deliveries before it. -/
theorem Performs.scanned {first : Monitor} {earlier later : List WatchEvent}
    {result : Except FileFailure (List ScenarioChange)}
    (performs : Performs first (earlier ++ .scanned files result :: later)) :
    ∃ monitor, Knows first (deliveriesOf earlier) monitor ∧ files.WellFormed ∧
      monitor.fresh files = result := by
  cases performs.later with
  | scan wellFormed fresh _ => exact ⟨_, foldl_past_knows first _, wellFormed, fresh⟩

private theorem Performs.delivered {first : Monitor} {events : List WatchEvent}
    (performs : Performs first events) {earlier later : List Delivery} {delivery : Delivery}
    (delivered : deliveriesOf events = earlier ++ delivery :: later) :
    ∃ monitor, Knows first earlier monitor ∧ delivery.before.WellFormed ∧ delivery.batch ≠ [] ∧
      monitor.fresh delivery.before = .ok delivery.batch := by
  obtain ⟨before, after, rfl, rfl, further⟩ := List.filterMap_eq_append_iff.mp delivered
  obtain ⟨quiet, event, rest, rfl, silent, own, -⟩ := List.filterMap_eq_cons_iff.mp further
  cases event with
  | scanned files result => cases own
  | delivered delivery =>
    cases own
    have nothing : deliveriesOf quiet = [] := List.filterMap_eq_nil_iff.mpr silent
    have onward := performs.later
    cases onward.later with
    | delivery wellFormed some fresh _ =>
      rw [nothing] at fresh
      exact ⟨_, foldl_past_knows first _, wellFormed, some, fresh⟩

/-- What is asked of the deliveries of a run: no batch is empty, holds a file twice or holds what is in
the cache, and no version of a file is delivered twice in a row. -/
structure DeliversVersions (cache : ChangeCache) (deliveries : List Delivery) : Prop where
  batch : ∀ earlier delivery later, deliveries = earlier ++ delivery :: later →
    delivery.batch ≠ [] ∧ (delivery.batch.map (·.file)).Pairwise (· < ·)
  uncached : ∀ earlier delivery later, deliveries = earlier ++ delivery :: later →
    ∀ change ∈ delivery.batch, delivery.before.digest change.file = .ok change.digest ∧
      (earlier.foldl Delivery.record cache).get? (delivery.before.cacheKey change.file) ≠
        some change.digest
  distinct : ∀ earlier first between second later,
    deliveries = earlier ++ first :: between ++ second :: later →
      ∀ change ∈ first.batch, ∀ again ∈ second.batch, again.file = change.file →
        (∀ delivery ∈ between, ∀ other ∈ delivery.batch, other.file ≠ change.file) →
          again.digest ≠ change.digest

theorem watch_deliversVersions (options : MonitorOptions) (stop fuel : Nat) (monitor : Monitor)
    (timeline : Timeline) (due : Nat) (callbacks : List Callback) (wellFormed : timeline.WellFormed)
    (keeps : ∀ callback ∈ callbacks, KeepsForm callback.edit) :
    DeliversVersions monitor.detector.cache
      (watch options stop fuel monitor timeline due callbacks).deliveries := by
  have performs := trace_performs options stop fuel monitor timeline due callbacks wellFormed keeps
  rw [← trace_deliveries]
  generalize trace options stop fuel monitor timeline due callbacks = events at performs
  refine ⟨?_, ?_, ?_⟩
  · intro earlier delivery later delivered
    obtain ⟨between, knows, wellFormed, some, fresh⟩ := performs.delivered delivered
    exact ⟨some, (fresh_exact wellFormed fresh).1⟩
  · intro earlier delivery later delivered change member
    obtain ⟨between, knows, wellFormed, some, fresh⟩ := performs.delivered delivered
    obtain ⟨⟨-, read, new⟩, -⟩ := ((fresh_exact wellFormed fresh).2 change).mp member
    rw [knows.cache] at new
    exact ⟨read, new⟩
  · intro earlier first between second later delivered change member again inside same absent
    have firstAt : deliveriesOf events = earlier ++ first :: (between ++ second :: later) := by
      rw [delivered, List.append_assoc, List.cons_append]
    obtain ⟨start, -, firstFormed, -, firstFresh⟩ := performs.delivered firstAt
    obtain ⟨second, knows, wellFormed, -, fresh⟩ := performs.delivered delivered
    obtain ⟨-, new⟩ := ((fresh_exact wellFormed fresh).2 again).mp inside
    -- The first delivery is the last before the second one that concerns the file.
    have known : second.delivered.lookup again.file = some change.digest := by
      have others : latest? (changesOf between) change.file = none := by
        apply latest?_absent
        intro other held
        obtain ⟨delivery, place, held⟩ := List.mem_flatMap.mp held
        exact absent delivery place other held
      have own := latest?_of_mem (fresh_exact firstFormed firstFresh).1 member
      rw [knows.delivered, same, changesOf, List.flatMap_append, List.flatMap_cons, latest?_append,
        latest?_append, ← changesOf, others, own]
      rfl
    intro equal
    exact new (by rw [known, equal])

def watcher : ChangeDetector :=
  { directory := "s", cachePath := "c", cache := {} }

def version (content : ByteArray) : ScenarioChange :=
  { file := "s/a.txt", digest := Digest.ofBytes content }

def rewritten (contents : List (Nat × ByteArray)) : Timeline where
  files := oneScenario ⟨#[1]⟩
  edits := contents.map fun (time, content) => (time, fun _ => oneScenario content)

private theorem oneScenario_wellFormed (content : ByteArray) : (oneScenario content).WellFormed where
  once := by simp [oneScenario]
  named := by simp [oneScenario, FileSystem.Plain]
  rooted := by
    intro entry member
    simp only [oneScenario, List.mem_cons, List.not_mem_nil, or_false] at member
    rcases member with rfl | rfl <;> rfl
  working := rfl

private theorem rewritten_wellFormed (contents : List (Nat × ByteArray)) :
    (rewritten contents).WellFormed where
  files := oneScenario_wellFormed _
  edits := by
    intro edit member files wellFormed
    obtain ⟨⟨time, content⟩, -, rfl⟩ := List.mem_map.mp member
    exact oneScenario_wellFormed content

private theorem unchanged_keeps (callbacks : List Callback) (unchanged : ∀ callback ∈ callbacks, callback.edit = id) :
    ∀ callback ∈ callbacks, KeepsForm callback.edit := by
  intro callback member files wellFormed
  rw [unchanged callback member]
  exact wellFormed

set_option maxRecDepth 10000 in
/-- A version is refused, and the next one is delivered. -/
theorem watch_deliversVersions_rewritten :
    let run := watch {} 2700 10 { detector := watcher } (rewritten [(1600, ⟨#[2]⟩)]) 0
      [{ ran := false }]
    run.deliveries.map (·.batch) = [[version ⟨#[1]⟩], [version ⟨#[2]⟩]] ∧
      DeliversVersions {} run.deliveries := by
  refine ⟨by decide +kernel, ?_⟩
  exact watch_deliversVersions {} 2700 10 { detector := watcher } _ 0 _ (rewritten_wellFormed _)
    (unchanged_keeps _ (by simp))

/-- A scenario file that is there with a digest that is not the one in a cache. -/
def Unmarked (files : FileSystem) (directory : String) (cache : ChangeCache)
    (file digest : String) : Prop :=
  files.HasScenario directory file ∧ files.digest file = .ok digest ∧
    cache.get? (files.cacheKey file) ≠ some digest

/-- A version that is not marked is found by every scan, unless it is the one that was delivered last, or
a scenario file cannot be read. -/
theorem watch_withholds_latest (options : MonitorOptions) (stop fuel : Nat) (detector : ChangeDetector)
    (timeline : Timeline) (due : Nat) (callbacks : List Callback) (wellFormed : timeline.WellFormed)
    (keeps : ∀ callback ∈ callbacks, KeepsForm callback.edit) :
    let events := trace options stop fuel { detector } timeline due callbacks
    deliveriesOf events = (watch options stop fuel { detector } timeline due callbacks).deliveries ∧
      ∀ earlier files result later, events = earlier ++ .scanned files result :: later →
        ∀ file digest, Unmarked files detector.directory
          ((deliveriesOf earlier).foldl Delivery.record detector.cache) file digest →
            (∃ found, result = .ok found ∧ (ScenarioChange.mk file digest ∈ found ↔
              latest? (changesOf (deliveriesOf earlier)) file ≠ some digest)) ∨
            ∃ other failure, files.HasScenario detector.directory other ∧
              files.digest other = .error failure ∧ result = .error failure := by
  intro events
  refine ⟨trace_deliveries options stop fuel _ timeline due callbacks, ?_⟩
  intro earlier files result later split file digest unmarked
  have performs := trace_performs options stop fuel { detector } timeline due callbacks wellFormed keeps
  rw [show trace options stop fuel { detector } timeline due callbacks = _ from split] at performs
  obtain ⟨monitor, knows, wellFormed, rfl⟩ := performs.scanned
  obtain ⟨scenario, read, new⟩ := unmarked
  have directory : monitor.detector.directory = detector.directory := knows.directory
  rw [← directory] at scenario
  rcases fresh_cases wellFormed scenario with ⟨found, fresh⟩ | ⟨other, failure, inside, unread, failed⟩
  · refine .inl ⟨found, fresh, ?_⟩
    rw [(fresh_exact wellFormed fresh).2, knows.cache, knows.delivered]
    constructor
    · rintro ⟨-, notLast⟩
      simpa using notLast
    · intro notLast
      exact ⟨⟨scenario, read, new⟩, by simpa using notLast⟩
  · exact .inr ⟨other, failure, directory ▸ inside, unread, failed⟩

/-- The stronger demand that a version is found again once a scan has seen the file gone or in another
version. -/
def FindsAgain (detector : ChangeDetector) (events : List WatchEvent) : Prop :=
  ∀ before delivery since files found later,
    events = before ++ .delivered delivery :: since ++ .scanned files (.ok found) :: later →
      ∀ change ∈ delivery.batch,
        (∀ other ∈ deliveriesOf since, ∀ again ∈ other.batch, again.file ≠ change.file) →
        (∃ seen result, .scanned seen result ∈ since ∧
          seen.digest change.file ≠ .ok change.digest) →
        ∀ digest, Unmarked files detector.directory
          ((deliveriesOf (before ++ .delivered delivery :: since)).foldl Delivery.record
            detector.cache) change.file digest →
          ∃ again ∈ found, again.file = change.file

deriving instance DecidableEq for Delivery, WatchEvent

def firstRefusal : Delivery where
  time := 500
  batch := [version ⟨#[1]⟩]
  ran := false
  before := oneScenario ⟨#[1]⟩
  after := oneScenario ⟨#[1]⟩

/-- A version is refused. Another one is seen, but the first is back when it would be delivered. -/
def reverted : List WatchEvent :=
  trace {} 2700 10 { detector := watcher } (rewritten [(1600, ⟨#[2]⟩), (2200, ⟨#[1]⟩)]) 0
    [{ ran := false }]

/-- What happens until the first version is back. -/
def untilReverted : List WatchEvent :=
  [.scanned (oneScenario ⟨#[1]⟩) (.ok [version ⟨#[1]⟩]),
    .scanned (oneScenario ⟨#[1]⟩) (.ok [version ⟨#[1]⟩]), .delivered firstRefusal,
    .scanned (oneScenario ⟨#[1]⟩) (.ok [])]

theorem reverted_eq : reverted = untilReverted ++
    [.scanned (oneScenario ⟨#[2]⟩) (.ok [version ⟨#[2]⟩]),
      .scanned (oneScenario ⟨#[1]⟩) (.ok [])] := by
  decide +kernel

private theorem oneScenario_scenario (content : ByteArray) :
    (oneScenario content).HasScenario "s" "s/a.txt" := by
  refine ⟨["s"], "a.txt", ?_, ?_, ?_, ?_, ?_⟩
  · rfl
  · rintro ⟨⟩
  · decide +kernel
  · decide +kernel
  · rfl

set_option maxRecDepth 10000 in
theorem watch_withholds_latest_reverted :
    ∃ found, (.ok [version ⟨#[2]⟩] : Except FileFailure (List ScenarioChange)) = .ok found ∧
      (version ⟨#[2]⟩ ∈ found ↔ latest? (changesOf (deliveriesOf untilReverted)) "s/a.txt" ≠
        some (Digest.ofBytes ⟨#[2]⟩)) := by
  have scans := watch_withholds_latest {} 2700 10 watcher
    (rewritten [(1600, ⟨#[2]⟩), (2200, ⟨#[1]⟩)]) 0 [{ ran := false }] (rewritten_wellFormed _)
    (unchanged_keeps _ (by simp))
  have unmarked : Unmarked (oneScenario ⟨#[2]⟩) "s"
      ((deliveriesOf untilReverted).foldl Delivery.record {}) "s/a.txt" (Digest.ofBytes ⟨#[2]⟩) := by
    refine ⟨oneScenario_scenario _, ?_, ?_⟩ <;> decide +kernel
  have seen := scans.2 untilReverted (oneScenario ⟨#[2]⟩) _ _ reverted_eq "s/a.txt" _ unmarked
  refine seen.resolve_right ?_
  rintro ⟨other, failure, -, -, failed⟩
  cases failed

theorem reverted_withheld : ¬ FindsAgain watcher reverted := by
  intro findsAgain
  have again := findsAgain
    [.scanned (oneScenario ⟨#[1]⟩) (.ok [version ⟨#[1]⟩]),
      .scanned (oneScenario ⟨#[1]⟩) (.ok [version ⟨#[1]⟩])]
    firstRefusal
    [.scanned (oneScenario ⟨#[1]⟩) (.ok []), .scanned (oneScenario ⟨#[2]⟩) (.ok [version ⟨#[2]⟩])]
    (oneScenario ⟨#[1]⟩) [] [] reverted_eq (version ⟨#[1]⟩) (.head _) ?_ ?_
    (Digest.ofBytes ⟨#[1]⟩) ?_
  · obtain ⟨change, member, -⟩ := again
    cases member
  · intro other member
    cases member
  · refine ⟨oneScenario ⟨#[2]⟩, _, .tail _ (.head _), ?_⟩
    decide +kernel
  · refine ⟨oneScenario_scenario _, ?_, ?_⟩ <;> decide +kernel

end Monitor

end TextScenario
