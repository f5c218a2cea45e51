import TextScenario.CommandLine.Watch
import TextScenario.Proofs.ChangedCommand
import TextScenario.Proofs.FailedMarks
import TextScenario.Proofs.WatchVersions

/-! Batches of the watch command. A batch is marked as a whole: after a round none of its files is
reported if all of its scenarios passed, and every one is if any of them did not. -/

namespace TextScenario

open FileSystem

private theorem FileSystem.HasScenario.grown {files other : FileSystem} {directory file : String}
    (scenario : files.HasScenario directory file) (grown : Grown files other) :
    other.HasScenario directory file := by
  obtain ⟨location, name, found, there, named, rfl, isFile⟩ := scenario
  obtain ⟨entry, there⟩ := Option.ne_none_iff_exists'.mp there
  obtain ⟨place, content, opened⟩ := isFile_iff.mp isFile
  refine ⟨location, name, grown.lookup found, ?_, named, rfl,
    isFile_iff.mpr ⟨place, content, grown.lookup opened⟩⟩
  rw [grown.present there]
  simp

namespace ChangeDetector

variable {detector marked : ChangeDetector} {files other after : FileSystem}
  {batch : List ScenarioChange}

/-- What a scan found is reported as long as nothing was marked. -/
theorem reports_unmarked (grown : Grown files other) (wellFormed : other.WellFormed)
    (ended : (detector.changes other).isOk = true) {change : ScenarioChange}
    (scenario : files.HasScenario detector.directory change.file)
    (read : files.digest change.file = .ok change.digest)
    (new : detector.cache.get? (files.cacheKey change.file) ≠ some change.digest) :
    detector.reports other change.file = .ok true := by
  obtain ⟨location, content, found, same⟩ := digest_eq_ok read
  have still := grown.lookup found
  have key : other.cacheKey change.file = files.cacheKey change.file := by
    rw [cacheKey_of_lookup still, cacheKey_of_lookup found, grown.shown]
  rw [reports_scenario detector wellFormed ended (scenario.grown grown), digest_of_lookup still, key,
    ← same, decide_eq_true]
  exact new

/-- Of scenario files that were marked the last ones with their keys are not reported, if saving keeps
clear of them. -/
theorem reports_marked (wellFormed : files.WellFormed)
    (scenarios : ∀ change ∈ batch, files.HasScenario detector.directory change.file ∧
      files.digest change.file = .ok change.digest)
    (clear : ∀ change ∈ batch, ∀ place ∈ files.way change.file,
      place ∉ ChangeCache.places files detector.cachePath)
    (done : detector.mark files (batch.map (·.file)) = (.ok (), marked, after))
    (ended : (marked.changes after).isOk = true) {change : ScenarioChange} (member : change ∈ batch)
    {earlier later : List ScenarioChange} {last : ScenarioChange}
    (split : batch = earlier ++ last :: later)
    (key : files.cacheKey last.file = files.cacheKey change.file)
    (final : ∀ other ∈ later, files.cacheKey other.file ≠ files.cacheKey change.file) :
    marked.reports after change.file = .ok (decide (last.digest ≠ change.digest)) := by
  obtain ⟨same, noted, saved⟩ := mark_ok done
  have directory : marked.directory = detector.directory := by rw [same]
  obtain ⟨scenario, read⟩ := scenarios change member
  obtain ⟨location, content, found, held⟩ := digest_eq_ok read
  have still := ChangeCache.save_lookup wellFormed saved (clear change member) found
  have kept := ChangeCache.save_scenario wellFormed saved (clear change member) scenario
  have keyed : after.cacheKey change.file = files.cacheKey change.file := by
    rw [cacheKey_of_lookup still, cacheKey_of_lookup found, ChangeCache.save_shown wellFormed saved]
  have lastRead := (scenarios last (by simp [split])).2
  have entry : marked.cache.get? (files.cacheKey change.file) = some last.digest := by
    rw [note_notedEntry noted, split, List.map_append, List.map_cons, ← key, notedEntry_last, lastRead]
    · rfl
    · intro path inside
      obtain ⟨other, behind, rfl⟩ := List.mem_map.mp inside
      rw [key]
      exact final other behind
  rw [reports_scenario marked (ChangeCache.save_wellFormed wellFormed saved) ended (directory ▸ kept),
    digest_of_lookup still, keyed, entry, held]
  simp [Except.toOption]

end ChangeDetector

namespace CommandLine

variable {σ : Type} {context : RunContext σ} {environment : Environment} {settings : Settings}

private theorem runReports_initial (context : RunContext σ) (environment : Environment) (settings : Settings)
    (executor : Executor σ) (files : FileSystem) (paths : List String) :
    (runReports context environment settings executor files paths).map (·.path) <+: paths := by
  induction paths generalizing executor files with
  | nil => exact List.nil_prefix
  | cons path rest ih =>
    rw [runReports_cons]
    split
    · exact List.nil_prefix
    generalize loadScenario environment settings files path = loaded
    obtain ⟨result, after⟩ := loaded
    cases result with
    | error failure => exact List.nil_prefix
    | ok document => exact List.cons_prefix_cons.mpr ⟨rfl, ih _ _⟩

def passedFiles (context : RunContext σ) (environment : Environment) (settings : Settings)
    (executor : Executor σ) (files : FileSystem) (paths : List String) : List String :=
  ((runReports context environment settings executor files paths).filter
    (·.report.passed)).map (·.path)

/-- Whether a batch came to its end and all of it passed. -/
def Batch.passed (batch : Batch σ) (paths : List String) : Bool :=
  match batch.reports with
  | .ok reports => allPassed paths reports
  | .error _ => false

theorem passed_iff (context : RunContext σ) (environment : Environment) (settings : Settings)
    (executor : Executor σ) (files : FileSystem) {paths : List String} (distinct : paths.Nodup) :
    (runFiles context environment settings executor files paths).passed paths = true ↔
      ∀ path ∈ paths, path ∈ passedFiles context environment settings executor files paths := by
  obtain ⟨ended, stopped⟩ := runReports_eq context environment settings executor files paths
  have first := runReports_initial context environment settings executor files paths
  constructor
  · intro passed
    cases reported : (runFiles context environment settings executor files paths).reports with
    | error failure => simp [Batch.passed, reported] at passed
    | ok reports =>
      simp only [Batch.passed, reported, allPassed, Bool.and_eq_true, beq_iff_eq] at passed
      obtain ⟨all, complete⟩ := passed
      rw [ended reports reported] at all complete
      have whole := first.eq_of_length (by simp [complete])
      intro path member
      rw [passedFiles, List.filter_eq_self.mpr (List.all_eq_true.mp all), whole]
      exact member
  · intro all
    -- As many files passed as there are, so nothing is left that was not run or did not pass.
    have enough := (distinct.subperm all).length_le
    have few : (runReports context environment settings executor files paths).length ≤ paths.length := by
      simpa using first.length_le
    have passing := List.length_filter_le (·.report.passed)
      (runReports context environment settings executor files paths)
    rw [passedFiles, List.length_map] at enough
    have kept : (runReports context environment settings executor files paths).filter
        (·.report.passed) = runReports context environment settings executor files paths :=
      List.filter_sublist.eq_of_length (by omega)
    cases reported : (runFiles context environment settings executor files paths).reports with
    | error failure =>
      obtain ⟨run, failed, rest, rfl, same⟩ := stopped failure reported
      have shorter := (runReports_initial context environment settings executor files run).length_le
      rw [← (runReports_eq context environment settings executor files run).1 _ same,
        List.length_map] at shorter
      simp only [List.length_append, List.length_cons] at enough
      omega
    | ok reports =>
      simp only [Batch.passed, reported, allPassed, Bool.and_eq_true, beq_iff_eq]
      rw [ended reports reported]
      exact ⟨List.all_eq_true.mpr (List.filter_eq_self.mp kept), by omega⟩

namespace Watch

variable {batch : List ScenarioChange}

def ran (watch : Watch σ) (surroundings : Surroundings σ) (settings : Settings) (dryRun : Bool)
    (batch : List ScenarioChange) : Batch σ :=
  runFiles (runContext surroundings settings dryRun) surroundings.environment settings watch.executor
    watch.files (batch.map (·.file))

def passed (watch : Watch σ) (surroundings : Surroundings σ) (settings : Settings) (dryRun : Bool)
    (batch : List ScenarioChange) : List String :=
  passedFiles (runContext surroundings settings dryRun) surroundings.environment settings
    watch.executor watch.files (batch.map (·.file))

private theorem round_deliver (watch : Watch σ) (surroundings : Surroundings σ) (settings : Settings)
    (format : OutputFormat) (dryRun : Bool) (fresh : watch.monitor.fresh watch.files = .ok batch)
    (some : batch ≠ []) :
    watch.round surroundings settings format dryRun =
      watch.deliver surroundings settings format dryRun batch := by
  simp only [round, fresh]

/-- A round that finds something marks it if all of it has passed. -/
theorem round_finish (watch : Watch σ) (surroundings : Surroundings σ) (settings : Settings)
    (format : OutputFormat) (dryRun : Bool) (fresh : watch.monitor.fresh watch.files = .ok batch)
    (some : batch ≠ []) :
    let round := watch.round surroundings settings format dryRun
    let run := watch.ran surroundings settings dryRun batch
    (round.result, round.watch.monitor, round.watch.files) =
      (watch.monitor.deliver batch).finish run.files batch (run.passed (batch.map (·.file))) := by
  intro round run
  have delivered : round = watch.deliver surroundings settings format dryRun batch :=
    round_deliver watch surroundings settings format dryRun fresh some
  have run_eq : runFiles (runContext surroundings settings dryRun) surroundings.environment settings
      watch.executor watch.files (batch.map (·.file)) = run := rfl
  rw [delivered]
  simp only [deliver, run_eq, Batch.passed]
  cases run.reports <;> rfl

/-- What a batch leaves: whether its files are reported by a scan that comes to an end, and whether the
cache file says the same. Two files of the batch have one key only if one text stands for their paths. -/
structure Settles (watch : Watch σ) (after : Watch σ) (batch : List ScenarioChange)
    (passed : List String) : Prop where
  reported : (after.monitor.detector.changes after.files).isOk = true → ∀ change ∈ batch,
    ∀ earlier last later, batch = earlier ++ last :: later →
      watch.files.cacheKey last.file = watch.files.cacheKey change.file →
      (∀ other ∈ later, watch.files.cacheKey other.file ≠ watch.files.cacheKey change.file) →
        after.monitor.detector.reports after.files change.file =
          .ok (decide ((∃ other ∈ batch, other.file ∉ passed) ∨ last.digest ≠ change.digest))
  told : watch.files.shown.Injective → ∀ change ∈ batch, ∀ other ∈ batch,
    watch.files.cacheKey other.file = watch.files.cacheKey change.file → other.digest = change.digest
  reopened : watch.monitor.detector.cache =
      ChangeCache.load watch.files watch.monitor.detector.cachePath →
    after.files.isFile watch.monitor.detector.cachePath =
        (decide (∀ other ∈ batch, other.file ∈ passed) ||
          watch.files.isFile watch.monitor.detector.cachePath) →
    ChangeDetector.ofPaths after.files watch.monitor.detector.directory
      watch.monitor.detector.cachePath = after.monitor.detector

section Settles

variable {watch after : Watch σ} {passed : List String}
  (found : ∀ change ∈ batch, watch.files.HasScenario watch.monitor.detector.directory change.file ∧
    watch.files.digest change.file = .ok change.digest ∧
      watch.monitor.detector.cache.get? (watch.files.cacheKey change.file) ≠ some change.digest)
include found

private theorem told_apart (wellFormed : watch.files.WellFormed) (told : watch.files.shown.Injective)
    {change other : ScenarioChange} (member : change ∈ batch) (inside : other ∈ batch)
    (same : watch.files.cacheKey other.file = watch.files.cacheKey change.file) :
    other.digest = change.digest := by
  obtain ⟨scenario, read, -⟩ := found change member
  obtain ⟨location, content, opened⟩ := scenario.lookup
  obtain ⟨otherScenario, otherRead, -⟩ := found other inside
  obtain ⟨place, held, there⟩ := otherScenario.lookup
  have digests := ChangeDetector.digest_of_listed wellFormed told (isFile_iff.mpr ⟨_, _, opened⟩)
    (exists?_iff.mpr ⟨_, _, there⟩) same
  rw [read, otherRead] at digests
  exact Option.some.inj digests

private theorem settles_marked {files : FileSystem} (grown : Grown watch.files files)
    (wellFormed : watch.files.WellFormed) (formed : files.WellFormed)
    (passing : ∀ other ∈ batch, other.file ∈ passed)
    (clear : ∀ change ∈ batch, ∀ place ∈ files.way change.file,
      place ∉ ChangeCache.places files watch.monitor.detector.cachePath)
    (marked : watch.monitor.detector.mark files (batch.map (·.file)) =
      (.ok (), after.monitor.detector, after.files)) : Settles watch after batch passed where
  reported ended change member earlier last later split key final := by
    have scenarios (change : ScenarioChange) (member : change ∈ batch) :
        files.HasScenario watch.monitor.detector.directory change.file ∧
          files.digest change.file = .ok change.digest := by
      obtain ⟨scenario, read, -⟩ := found change member
      obtain ⟨location, content, opened, same⟩ := digest_eq_ok read
      exact ⟨scenario.grown grown, same ▸ digest_of_lookup (grown.lookup opened)⟩
    have keys (change : ScenarioChange) (member : change ∈ batch) :
        files.cacheKey change.file = watch.files.cacheKey change.file := by
      obtain ⟨location, content, opened⟩ := (found change member).1.lookup
      rw [cacheKey_of_lookup (grown.lookup opened), cacheKey_of_lookup opened, grown.shown]
    have onward : ∀ other ∈ later, other ∈ batch := by
      intro other inside
      simp [split, inside]
    have all : ¬ ∃ other ∈ batch, other.file ∉ passed := by simpa using passing
    rw [ChangeDetector.reports_marked formed scenarios clear marked ended member split]
    · simp only [all, false_or]
    · rwa [keys change member, keys last (by simp [split])]
    · intro other inside
      rw [keys change member, keys other (onward other inside)]
      exact final other inside
  told told _ member _ inside := told_apart found wellFormed told member inside
  reopened synced file := by
    obtain ⟨same, noted, saved⟩ := ChangeDetector.mark_ok marked
    have sorted := ChangeDetector.note_sorted (synced ▸ ChangeCache.load_sorted _ _) noted
    rw [decide_eq_true passing, Bool.true_or] at file
    rw [ChangeDetector.ofPaths, ChangeCache.save_load formed sorted saved file, ← same]

private theorem settles_unmarked (grown : Grown watch.files after.files)
    (wellFormed : watch.files.WellFormed) (formed : after.files.WellFormed)
    (failing : ∃ other ∈ batch, other.file ∉ passed)
    (kept : after.monitor.detector = watch.monitor.detector) : Settles watch after batch passed where
  reported ended change member _ _ _ _ _ _ := by
    obtain ⟨scenario, read, new⟩ := found change member
    rw [kept] at ended
    rw [decide_eq_true (.inl failing), kept]
    exact ChangeDetector.reports_unmarked grown formed ended scenario read new
  told told _ member _ inside := told_apart found wellFormed told member inside
  reopened synced file := by
    rw [decide_eq_false (by simpa using failing), Bool.false_or] at file
    rw [kept, ChangeDetector.ofPaths, ChangeCache.load_grown grown fun present => by rwa [← file],
      ← synced]

end Settles

/-- The files of a batch are reported if any of them did not pass, unless they cannot be marked. -/
theorem round_settles (watch : Watch σ) (surroundings : Surroundings σ) (settings : Settings)
    (format : OutputFormat) (dryRun : Bool) (wellFormed : watch.files.WellFormed)
    (fresh : watch.monitor.fresh watch.files = .ok batch) (some : batch ≠ [])
    (clear : ∀ change ∈ batch,
      ∀ place ∈ (watch.ran surroundings settings dryRun batch).files.way change.file,
        place ∉ ChangeCache.places (watch.ran surroundings settings dryRun batch).files
          watch.monitor.detector.cachePath)
    (done : (watch.round surroundings settings format dryRun).result = .ok ()) :
    Settles watch (watch.round surroundings settings format dryRun).watch batch
      (watch.passed surroundings settings dryRun batch) := by
  have finished := round_finish watch surroundings settings format dryRun fresh some
  have grown : Grown watch.files (watch.ran surroundings settings dryRun batch).files :=
    runFiles_grown _ _ _ _ _ _
  have formed : (watch.ran surroundings settings dryRun batch).files.WellFormed :=
    runFiles_wellFormed _ _ _ _ _ wellFormed
  obtain ⟨ascending, exact_⟩ := Monitor.fresh_exact wellFormed fresh
  have found (change : ScenarioChange) (member : change ∈ batch) := ((exact_ change).mp member).1
  have all : (watch.ran surroundings settings dryRun batch).passed (batch.map (·.file)) = true ↔
      ∀ other ∈ batch, other.file ∈ watch.passed surroundings settings dryRun batch := by
    rw [ran, passed_iff _ _ _ _ _ (ascending.imp ne_of_lt), List.forall_mem_map]
    rfl
  dsimp only at finished
  cases ended : (watch.ran surroundings settings dryRun batch).passed (batch.map (·.file)) with
  | true =>
    rw [ended, done] at finished
    have marked := Monitor.finish_ran finished.symm
    exact settles_marked found grown wellFormed formed (all.mp ended) clear marked
  | false =>
    simp only [ended, Monitor.finish, Bool.false_eq_true, if_false, Prod.mk.injEq] at finished
    obtain ⟨-, kept, left⟩ := finished
    refine settles_unmarked found (left ▸ grown) wellFormed (left ▸ formed) ?_ (by rw [kept]; rfl)
    apply Classical.byContradiction
    intro none
    rw [all.mpr (by simpa using none)] at ended
    cases ended

/-- A watch begins with what the cache file holds. -/
theorem start_synced (surroundings : Surroundings σ) (settings : Settings) (world : World σ) :
    (start surroundings settings world).monitor.detector.cache =
      ChangeCache.load (start surroundings settings world).files
        (start surroundings settings world).monitor.detector.cachePath := rfl

def twoWatched (second : ByteArray) : Watch Unit :=
  start unreached plainSettings (twoChanged second)

def twoBatch (second : ByteArray) : List ScenarioChange :=
  [⟨"s/a.txt", Digest.ofBytes "## Cart\nadd a mug\n".toUTF8⟩, ⟨"s/b.txt", Digest.ofBytes second⟩]

private theorem twoWatched_fresh (second : ByteArray) :
    (twoWatched second).monitor.fresh (twoWatched second).files = .ok (twoBatch second) := by
  have changes := twoChanged_changes second
  rw [Monitor.fresh, show (twoWatched second).monitor.detector.changes (twoWatched second).files = _
    from changes]
  rfl

def bothDelivered : Watch Unit :=
  ((twoWatched "## Pay\n".toUTF8).deliver unreached plainSettings .human true
    (twoBatch "## Pay\n".toUTF8)).watch

set_option maxRecDepth 10000 in
private theorem bothDelivered_ended :
    (bothDelivered.monitor.detector.changes bothDelivered.files).isOk = true := by
  have directory : bothDelivered.monitor.detector.directory = "s" := by decide +kernel
  have found : bothDelivered.files.lookup "s" = .ok (["s"], .directory) := by decide +kernel
  have listed : bothDelivered.files.scenarioFiles "s" = .ok ["s/a.txt", "s/b.txt"] :=
    ChangeDetector.two_listed found (by decide +kernel) (by decide +kernel) (by decide +kernel)
  have digests : bothDelivered.files.digest "s/a.txt" =
        (twoWatched "## Pay\n".toUTF8).files.digest "s/a.txt" ∧
      bothDelivered.files.digest "s/b.txt" = (twoWatched "## Pay\n".toUTF8).files.digest "s/b.txt" := by
    decide +kernel
  rw [← directory] at listed
  rw [ChangeDetector.changes_ok listed]
  · rfl
  · intro file member
    rcases List.mem_pair.mp member with rfl | rfl
    · exact ⟨_, digests.1⟩
    · exact ⟨_, digests.2⟩

set_option maxRecDepth 10000 in
/-- Both scenarios pass, and neither is reported any more. -/
theorem round_settles_both :
    let watch := twoWatched "## Pay\n".toUTF8
    let after := (watch.round unreached plainSettings .human true).watch
    after.monitor.detector.reports after.files "s/a.txt" = .ok false ∧
      plainSettings.detector after.files = after.monitor.detector := by
  intro watch after
  have fresh := twoWatched_fresh "## Pay\n".toUTF8
  have some : twoBatch "## Pay\n".toUTF8 ≠ [] := by simp [twoBatch]
  have delivered := round_deliver watch unreached plainSettings .human true fresh some
  have settles := round_settles watch unreached plainSettings .human true
    (twoChanged_wellFormed _) fresh some (by decide +kernel) (by rw [delivered]; decide +kernel)
  have passed : watch.passed unreached plainSettings true (twoBatch "## Pay\n".toUTF8) =
      ["s/a.txt", "s/b.txt"] := by decide +kernel
  rw [passed] at settles
  refine ⟨?_, ?_⟩
  · have ended : (after.monitor.detector.changes after.files).isOk = true := by
      have same : after = bothDelivered := congrArg Round.watch delivered
      rw [same]
      exact bothDelivered_ended
    refine (settles.reported ended _ (.head _) [] _ [_] rfl rfl (by decide +kernel)).trans ?_
    simp [twoBatch]
  · refine settles.reopened (start_synced _ _ _) ?_
    rw [delivered]
    decide +kernel

def sentSettings : Settings :=
  { plainSettings with
    execution := { plainSettings.execution with sessionEndpoint := some "http://h" } }

def oneChanged (others : List (Location × Entry)) : World Unit where
  files :=
    { entries :=
        [(["w"], .directory), (["w", "a-flow"], .directory), (["s"], .directory),
          (["s", "a.txt"], .file "## Cart\nadd a mug\n".toUTF8)] ++ others }
  server := ()

def oneWatched (settings : Settings) (others : List (Location × Entry)) : Watch Unit :=
  start unreached settings (oneChanged others)

def oneRound (settings : Settings) (others : List (Location × Entry)) : Round Unit :=
  (oneWatched settings others).round unreached settings .human true

def oneBatch : List ScenarioChange :=
  [⟨"s/a.txt", Digest.ofBytes "## Cart\nadd a mug\n".toUTF8⟩]

/-- The cache takes the place of the scenario that it is about. -/
def overwriting : Settings :=
  { plainSettings with cacheFile := "s/a.txt" }

set_option maxRecDepth 10000 in
/-- A scenario that has passed is reported: because another one of its batch failed, because it was
overwritten with the cache, or because the cache cannot be written. -/
theorem round_withholds :
    (let watch := twoWatched "## Pay\n".toUTF8
      let round := watch.round unreached sentSettings .human false
      watch.passed unreached sentSettings false (twoBatch "## Pay\n".toUTF8) = ["s/b.txt"] ∧
        round.result = .ok () ∧
          round.watch.monitor.detector.reports round.watch.files "s/b.txt" = .ok true) ∧
    ((oneWatched overwriting []).passed unreached overwriting true oneBatch = ["s/a.txt"] ∧
      (oneRound overwriting []).result = .ok () ∧
      (oneRound overwriting []).watch.monitor.detector.reports (oneRound overwriting []).watch.files
        "s/a.txt" = .ok true) ∧
    ((oneWatched plainSettings [(["c"], .directory)]).passed unreached plainSettings true oneBatch =
        ["s/a.txt"] ∧
      (oneRound plainSettings [(["c"], .directory)]).result.isOk = false ∧
      (plainSettings.detector (oneRound plainSettings [(["c"], .directory)]).watch.files).reports
        (oneRound plainSettings [(["c"], .directory)]).watch.files "s/a.txt" = .ok true) := by
  refine ⟨?_, by decide +kernel, by decide +kernel⟩
  intro watch round
  have fresh := twoWatched_fresh "## Pay\n".toUTF8
  have delivered : round = watch.deliver unreached sentSettings .human false _ :=
    round_deliver watch unreached sentSettings .human false fresh (by simp [twoBatch])
  have detector : round.watch.monitor.detector = watch.monitor.detector := by
    rw [delivered]
    decide +kernel
  have files : round.watch.files = watch.files := by
    rw [delivered]
    decide +kernel
  refine ⟨by decide +kernel, by rw [delivered]; decide +kernel, ?_⟩
  rw [detector, files]
  obtain ⟨scenario, read, new⟩ := (((Monitor.fresh_exact (twoChanged_wellFormed _) fresh).2 _).mp
    (.tail _ (.head _))).1
  have ended : (watch.monitor.detector.changes watch.files).isOk = true := by
    rw [show watch.monitor.detector.changes watch.files = _ from twoChanged_changes _]
    rfl
  exact ChangeDetector.reports_unmarked (.refl _) (twoChanged_wellFormed _) ended scenario read new

end Watch

end CommandLine

end TextScenario
