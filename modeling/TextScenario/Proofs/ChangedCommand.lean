import TextScenario.CommandLine.Command
import TextScenario.Proofs.CacheSaving
import TextScenario.Proofs.ChangeScans

/-! Running changed scenarios. What the command leaves in the cache is told from the files that it ran
and that passed, also if a later file could not be loaded. -/

namespace TextScenario

open FileSystem

namespace ChangeCache

def record (cache : ChangeCache) (files : FileSystem) (paths : List String) : ChangeCache :=
  paths.foldl
    (fun cache path =>
      match files.digest path with
      | .ok digest => cache.insert (files.cacheKey path) digest
      | .error _ => cache)
    cache

variable {files other : FileSystem} {paths : List String}

private theorem record_congr (cache : ChangeCache)
    (same : ∀ path ∈ paths, other.digest path = files.digest path ∧
      other.cacheKey path = files.cacheKey path) :
    cache.record other paths = cache.record files paths := by
  rw [record, record]
  apply List.foldl_ext
  intro cache path member
  obtain ⟨digest, key⟩ := same path member
  rw [digest, key]

private theorem record_sorted {cache : ChangeCache} (sorted : cache.Sorted) (files : FileSystem)
    (paths : List String) : (cache.record files paths).Sorted := by
  induction paths generalizing cache with
  | nil => exact sorted
  | cons path rest ih =>
    rw [record, List.foldl_cons]
    apply ih
    split
    · exact sorted.insert _ _
    · exact sorted

private theorem note_eq_record (cache : ChangeCache)
    (readable : ∀ path ∈ paths, ∃ digest, files.digest path = .ok digest) :
    ChangeDetector.note files cache paths = (.ok (), cache.record files paths) := by
  induction paths generalizing cache with
  | nil => rfl
  | cons path rest ih =>
    obtain ⟨digest, read⟩ := readable path (.head _)
    obtain ⟨location, content, found, -⟩ := digest_eq_ok read
    have there : files.exists? path = true := exists?_iff.mpr ⟨_, _, found⟩
    rw [ChangeDetector.note, if_pos there, read]
    dsimp only
    rw [ih _ fun other inside => readable other (.tail _ inside), record, record, List.foldl_cons, read]

/-- Files whose digests are not in the cache make a difference when they are recorded, also if some have
one key. -/
theorem record_ne {cache : ChangeCache} (nonempty : paths ≠ [])
    (new : ∀ path ∈ paths, ∃ digest, files.digest path = .ok digest ∧
      cache.get? (files.cacheKey path) ≠ some digest) : cache.record files paths ≠ cache := by
  obtain ⟨path, member⟩ := List.exists_mem_of_ne_nil _ nonempty
  have readable : ∀ path ∈ paths, ∃ digest, files.digest path = .ok digest := by
    intro path inside
    obtain ⟨digest, read, -⟩ := new path inside
    exact ⟨digest, read⟩
  have entry : (cache.record files paths).get? (files.cacheKey path) ≠
      cache.get? (files.cacheKey path) := by
    refine ChangeDetector.note_entry (· ≠ cache.get? (files.cacheKey path))
      (note_eq_record cache readable) ?_ (.inr ⟨path, member, rfl⟩)
    intro other inside named
    obtain ⟨digest, read, different⟩ := new other inside
    rw [read, ← named]
    exact Ne.symm different
  intro same
  exact entry (by rw [same])

end ChangeCache

namespace CommandLine

variable {σ : Type} {context : RunContext σ} {environment : Environment} {settings : Settings}

theorem loadScenario_files (environment : Environment) (settings : Settings) (files : FileSystem)
    (path : String) :
    (loadScenario environment settings files path).2 = (files.createDirectories
      ((WorkflowId.ofPath path files.shown).directory settings.execution.cacheDirectory)).2 := by
  have prepared : (files.prepareWorkflow path settings.execution.cacheDirectory).2 =
      (files.createDirectories
        ((WorkflowId.ofPath path files.shown).directory settings.execution.cacheDirectory)).2 := by
    unfold prepareWorkflow
    dsimp only
    generalize files.createDirectories _ = created
    obtain ⟨result, after⟩ := created
    cases result <;> rfl
  rw [← prepared]
  unfold loadScenario
  generalize files.prepareWorkflow path settings.execution.cacheDirectory = prepared
  rfl

def runReports (context : RunContext σ) (environment : Environment) (settings : Settings)
    (executor : Executor σ) (files : FileSystem) : List String → List FileReport
  | [] => []
  | path :: rest =>
    let executor := executor.elapse context
    if context.cancelled executor.state then []
    else match loadScenario environment settings files path with
      | (.error _, _) => []
      | (.ok document, files) =>
        let (report, executor) := executor.runDocument context document
        { path, report } :: runReports context environment settings executor files rest

section Cons

attribute [local irreducible] loadScenario

theorem runFiles_cons (context : RunContext σ) (environment : Environment) (settings : Settings)
    (executor : Executor σ) (files : FileSystem) (path : String) (rest : List String) :
    runFiles context environment settings executor files (path :: rest) =
      if context.cancelled (executor.elapse context).state then
        { reports := .ok [], executor := executor.elapse context, files }
      else match loadScenario environment settings files path with
        | (.error error, files) =>
          { reports := .error error, executor := executor.elapse context, files }
        | (.ok document, files) =>
          let outcome := (executor.elapse context).runDocument context document
          let batch := runFiles context environment settings outcome.2 files rest
          { batch with reports := batch.reports.map ({ path, report := outcome.1 } :: ·) } := rfl

theorem runReports_cons (context : RunContext σ) (environment : Environment) (settings : Settings)
    (executor : Executor σ) (files : FileSystem) (path : String) (rest : List String) :
    runReports context environment settings executor files (path :: rest) =
      if context.cancelled (executor.elapse context).state then []
      else match loadScenario environment settings files path with
        | (.error _, _) => []
        | (.ok document, files) =>
          let outcome := (executor.elapse context).runDocument context document
          { path, report := outcome.1 } ::
            runReports context environment settings outcome.2 files rest := rfl

end Cons

private theorem runFiles_keeps (keeps : FileSystem → Prop)
    (step : ∀ files path, keeps files → keeps (files.createDirectories path).2)
    (context : RunContext σ) (environment : Environment) (settings : Settings)
    (executor : Executor σ) (files : FileSystem) (paths : List String) (start : keeps files) :
    keeps (runFiles context environment settings executor files paths).files := by
  induction paths generalizing executor files with
  | nil => exact start
  | cons path rest ih =>
    rw [runFiles_cons]
    by_cases cancelled : context.cancelled (executor.elapse context).state = true
    · rw [if_pos cancelled]
      exact start
    rw [if_neg cancelled]
    have prepared : keeps (loadScenario environment settings files path).2 := by
      rw [loadScenario_files]
      exact step files _ start
    generalize loadScenario environment settings files path = loaded at prepared
    obtain ⟨result, after⟩ := loaded
    cases result with
    | error failure => exact prepared
    | ok document => exact ih _ _ prepared

theorem runFiles_grown (context : RunContext σ) (environment : Environment) (settings : Settings)
    (executor : Executor σ) (files : FileSystem) (paths : List String) :
    Grown files (runFiles context environment settings executor files paths).files :=
  runFiles_keeps (Grown files) (fun between path grown => grown.trans (createDirectories_grown between path))
    context environment settings executor files paths (.refl files)

theorem runFiles_wellFormed (context : RunContext σ) (environment : Environment)
    (settings : Settings) (executor : Executor σ) {files : FileSystem} (paths : List String)
    (wellFormed : files.WellFormed) :
    (runFiles context environment settings executor files paths).files.WellFormed :=
  runFiles_keeps WellFormed (fun _ path formed => createDirectories_wellFormed formed path)
    context environment settings executor files paths wellFormed

/-- A batch that comes to its end reports on all files that were run; one that does not has run the
files before the one that could not be loaded. -/
theorem runReports_eq (context : RunContext σ) (environment : Environment) (settings : Settings)
    (executor : Executor σ) (files : FileSystem) (paths : List String) :
    (∀ reports, (runFiles context environment settings executor files paths).reports = .ok reports →
      reports = runReports context environment settings executor files paths) ∧
    ∀ error, (runFiles context environment settings executor files paths).reports = .error error →
      ∃ run failed rest, paths = run ++ failed :: rest ∧
        (runFiles context environment settings executor files run).reports =
          .ok (runReports context environment settings executor files paths) := by
  induction paths generalizing executor files with
  | nil =>
    refine ⟨?_, ?_⟩
    · intro reports done
      cases done
      rfl
    · intro error failed
      cases failed
  | cons path rest ih =>
    rw [runFiles_cons, runReports_cons]
    by_cases cancelled : context.cancelled (executor.elapse context).state = true
    · rw [if_pos cancelled, if_pos cancelled]
      refine ⟨?_, ?_⟩
      · intro reports done
        cases done
        rfl
      · intro error failed
        cases failed
    rw [if_neg cancelled, if_neg cancelled]
    cases loaded : loadScenario environment settings files path with
    | mk result after =>
      cases result with
      | error failure =>
        refine ⟨?_, ?_⟩
        · intro reports done
          cases done
        · intro error failed
          exact ⟨[], path, rest, rfl, rfl⟩
      | ok document =>
        dsimp only
        generalize ran : (executor.elapse context).runDocument context document = outcome
        obtain ⟨ended, stopped⟩ := ih outcome.2 after
        refine ⟨?_, ?_⟩
        · intro reports done
          cases later : (runFiles context environment settings outcome.2 after rest).reports with
          | error failure =>
            rw [later] at done
            cases done
          | ok others =>
            rw [later] at done
            cases done
            rw [ended others later]
        · intro error failed
          cases later : (runFiles context environment settings outcome.2 after rest).reports with
          | ok others =>
            rw [later] at failed
            cases failed
          | error failure =>
            obtain ⟨run, bad, others, rfl, reports⟩ := stopped failure later
            refine ⟨path :: run, bad, others, rfl, ?_⟩
            rw [runFiles_cons, if_neg cancelled, loaded]
            simp only [ran, reports]
            rfl

private theorem runReports_mem {executor : Executor σ} {files : FileSystem} {paths : List String}
    {report : FileReport}
    (member : report ∈ runReports context environment settings executor files paths) :
    report.path ∈ paths := by
  induction paths generalizing executor files with
  | nil => cases member
  | cons path rest ih =>
    rw [runReports_cons] at member
    split at member
    · cases member
    generalize loadScenario environment settings files path = loaded at member
    obtain ⟨result, after⟩ := loaded
    cases result with
    | error failure => cases member
    | ok document =>
      rcases List.mem_cons.mp member with rfl | later
      · exact .head _
      · exact .tail _ (ih later)

def changedFiles (settings : Settings) (files : FileSystem) : List String :=
  (((settings.detector files).changes files).toOption.getD []).map (·.file)

/-- The changed files that the command ran and that passed. -/
def earnedFiles (surroundings : Surroundings σ) (settings : Settings) (dryRun : Bool)
    (world : World σ) : List String :=
  ((runReports (runContext surroundings settings dryRun) surroundings.environment settings
    (executor surroundings settings world) world.files (changedFiles settings world.files)).filter
      (·.report.passed)).map (·.path)

private theorem earnedFiles_changed {surroundings : Surroundings σ} {dryRun : Bool} {world : World σ}
    (wellFormed : world.files.WellFormed) {path : String}
    (member : path ∈ earnedFiles surroundings settings dryRun world) :
    world.files.HasScenario settings.scenariosDirectory path ∧ ∃ digest,
      world.files.digest path = .ok digest ∧
        (ChangeCache.load world.files settings.cacheFile).get? (world.files.cacheKey path) ≠
          some digest := by
  obtain ⟨report, inside, rfl⟩ := List.mem_map.mp member
  have changed := runReports_mem (List.mem_filter.mp inside).1
  rw [changedFiles] at changed
  obtain ⟨change, found, same⟩ := List.mem_map.mp changed
  cases scanned : (settings.detector world.files).changes world.files with
  | error failure =>
    rw [scanned] at found
    cases found
  | ok changes =>
    rw [scanned] at found
    obtain ⟨scenario, read, new⟩ :=
      ((ChangeDetector.changes_exact wellFormed scanned).complete change).mp found
    rw [← same]
    exact ⟨scenario, _, read, new⟩

/-- Marking the files that passed, in files with new directories, leaves their digests in the cache if
the cache is saved, and the old cache if it is not. -/
theorem mark_placed {files other after : FileSystem} {new old : Location} {passed : List String}
    {result : Except FileFailure Unit} {marked : ChangeDetector} (wellFormed : files.WellFormed)
    (placed : ChangeCache.Placed files settings.cacheFile new old) (grown : Grown files other)
    (otherFormed : other.WellFormed)
    (readable : ∀ path ∈ passed, ∃ digest, files.digest path = .ok digest)
    (done : (settings.detector files).mark other passed = (result, marked, after)) :
    ChangeCache.load after settings.cacheFile =
      if result.isOk then (ChangeCache.load files settings.cacheFile).record files passed
      else ChangeCache.load files settings.cacheFile := by
  have kept : ∀ path ∈ passed, other.digest path = files.digest path ∧
      other.cacheKey path = files.cacheKey path := by
    intro path member
    obtain ⟨digest, read⟩ := readable path member
    obtain ⟨location, content, found, rfl⟩ := digest_eq_ok read
    have still := grown.lookup found
    exact ⟨by rw [digest_of_lookup still, read], by
      rw [cacheKey_of_lookup still, cacheKey_of_lookup found, grown.shown]⟩
  have reread : ∀ path ∈ passed, ∃ digest, other.digest path = .ok digest := by
    intro path member
    rw [(kept path member).1]
    exact readable path member
  rw [ChangeDetector.mark, ChangeCache.note_eq_record _ reread] at done
  dsimp only at done
  rw [ChangeCache.record_congr _ kept] at done
  have sorted := ChangeCache.record_sorted (ChangeCache.load_sorted files settings.cacheFile) files
    passed
  cases saved : ((settings.detector files).cache.record files passed).save other
      (settings.detector files).cachePath with
  | mk outcome others =>
    rw [saved] at done
    cases done
    cases outcome with
    | ok => exact placed.load_saved wellFormed grown otherFormed sorted saved
    | error failure => exact placed.load_unsaved grown otherFormed saved

/-- The command leaves the cache with all digests that were earned if it ends well, and as it was
otherwise. -/
theorem runChangedCommand_cache (surroundings : Surroundings σ) (settings : Settings)
    (format : OutputFormat) (dryRun : Bool) (world : World σ) {new old : Location}
    (wellFormed : world.files.WellFormed)
    (placed : ChangeCache.Placed world.files settings.cacheFile new old) :
    let ending := runChangedCommand surroundings settings format dryRun world
    let before := ChangeCache.load world.files settings.cacheFile
    let earned := earnedFiles surroundings settings dryRun world
    ChangeCache.load ending.world.files settings.cacheFile =
      if ending.verdict.isOk then before.record world.files earned else before := by
  intro ending before earned
  cases scanned : (settings.detector world.files).changes world.files with
  | error failure =>
    have ended : ending = { verdict := .error (.failed .scan failure), world } := by
      simp only [ending, runChangedCommand, scanned]
    simp only [ended]
    rfl
  | ok changes =>
    have paths : changedFiles settings world.files = changes.map (·.file) := by
      rw [changedFiles, scanned]
      rfl
    cases changes with
    | nil =>
      have ended : ending = { output := nothingChanged, verdict := .ok true, world } := by
        simp only [ending, runChangedCommand, scanned]
      have none : earned = [] := by
        simp only [earned, earnedFiles, paths]
        rfl
      simp only [ended, none]
      rfl
    | cons change changes =>
      have readable : ∀ path ∈ earned, ∃ digest, world.files.digest path = .ok digest := by
        intro path member
        obtain ⟨-, digest, read, -⟩ := earnedFiles_changed wellFormed member
        exact ⟨digest, read⟩
      have grown := runFiles_grown (runContext surroundings settings dryRun)
        surroundings.environment settings (executor surroundings settings world) world.files
        (changedFiles settings world.files)
      have formed := runFiles_wellFormed (runContext surroundings settings dryRun)
        surroundings.environment settings (executor surroundings settings world)
        (changedFiles settings world.files) wellFormed
      have whole := (runReports_eq (runContext surroundings settings dryRun)
        surroundings.environment settings (executor surroundings settings world) world.files
        (changedFiles settings world.files)).1
      simp only [ending, runChangedCommand, scanned, runAndReport, ← paths]
      generalize runFiles (runContext surroundings settings dryRun) surroundings.environment
        settings (executor surroundings settings world) world.files
        (changedFiles settings world.files) = batch at grown formed whole
      cases reported : batch.reports with
      | error failure => exact ChangeCache.load_grown grown (placed.reached grown)
      | ok reports =>
        have passed : (reports.filter (·.report.passed)).map (·.path) = earned := by
          rw [whole reports reported]
          rfl
        simp only [passed]
        cases done : (settings.detector world.files).mark batch.files earned with
        | mk result marked =>
          have left := mark_placed wellFormed placed grown formed readable done
          cases result with
          | ok => exact left
          | error failure => exact left

/-- Two scenarios, the first of which passes, and the directories of their workflows. -/
def twoChanged (second : ByteArray) : World Unit where
  files :=
    { entries :=
        [(["w"], .directory), (["w", "a-flow"], .directory), (["w", "b-flow"], .directory),
          (["s"], .directory), (["s", "a.txt"], .file "## Cart\nadd a mug\n".toUTF8),
          (["s", "b.txt"], .file second)] }
  server := ()

def plainSettings : Settings where
  configDirectory := "config"
  scenariosDirectory := "s"
  cacheFile := "c"
  execution := { cacheDirectory := "w" }
  strict := none

def unreached : Surroundings Unit where
  environment := .empty
  server := { answer := fun _ state => (none, state) }

theorem twoChanged_wellFormed (second : ByteArray) : (twoChanged second).files.WellFormed where
  once := by simp [twoChanged]
  named := by simp [twoChanged, FileSystem.Plain]
  rooted := by
    intro entry member
    simp only [twoChanged, List.mem_cons, List.not_mem_nil, or_false] at member
    rcases member with rfl | rfl | rfl | rfl | rfl | rfl <;> rfl
  working := rfl

private theorem twoChanged_placed (second : ByteArray) :
    ChangeCache.Placed (twoChanged second).files plainSettings.cacheFile ["c"] ["c.tmp"] where
  followed := rfl
  newAt := rfl
  oldAt := rfl
  unlinked target linked := by cases linked
  apart := by decide

private theorem twoChanged_listed (second : ByteArray) :
    (twoChanged second).files.scenarioFiles "s" = .ok ["s/a.txt", "s/b.txt"] := by
  have found : (twoChanged second).files.lookup "s" = .ok (["s"], .directory) := rfl
  have names : ((twoChanged second).files.children ["s"]).map (·.1) = ["a.txt", "b.txt"] := rfl
  have paths : (["a.txt", "b.txt"].filter isScenarioName).map (FilePath.join "s") =
      ["s/a.txt", "s/b.txt"] := by decide +kernel
  have first : (twoChanged second).files.isFile "s/a.txt" = true := rfl
  have last : (twoChanged second).files.isFile "s/b.txt" = true := rfl
  rw [scenarioFiles_ok found, names, List.mergeSort_of_pairwise (by decide +kernel), paths]
  simp [first, last]

theorem twoChanged_changes (second : ByteArray) :
    (plainSettings.detector (twoChanged second).files).changes (twoChanged second).files =
      .ok [⟨"s/a.txt", Digest.ofBytes "## Cart\nadd a mug\n".toUTF8⟩,
        ⟨"s/b.txt", Digest.ofBytes second⟩] := by
  have uncached (key : String) :
      (plainSettings.detector (twoChanged second).files).cache.get? key = none := rfl
  have new {path digest : String} (read : (twoChanged second).files.digest path = .ok digest) :
      (plainSettings.detector (twoChanged second).files).change? (twoChanged second).files path =
        some ⟨path, digest⟩ := by
    refine ChangeDetector.change?_eq_some_iff.mpr ⟨rfl, read, ?_⟩
    rw [uncached]
    simp
  have firstFound : (twoChanged second).files.lookup "s/a.txt" =
      .ok (["s", "a.txt"], .file "## Cart\nadd a mug\n".toUTF8) := rfl
  have lastFound : (twoChanged second).files.lookup "s/b.txt" =
      .ok (["s", "b.txt"], .file second) := rfl
  have first : (twoChanged second).files.digest "s/a.txt" =
      .ok (Digest.ofBytes "## Cart\nadd a mug\n".toUTF8) :=
    digest_of_lookup firstFound
  have last : (twoChanged second).files.digest "s/b.txt" = .ok (Digest.ofBytes second) :=
    digest_of_lookup lastFound
  have scanned : (plainSettings.detector (twoChanged second).files).changes
      (twoChanged second).files = _ :=
    ChangeDetector.changes_ok (twoChanged_listed second) (by simp [first, last])
  rw [scanned, List.filterMap_cons_some (new first), List.filterMap_cons_some (new last)]
  rfl

private theorem twoChanged_changed (second : ByteArray) :
    changedFiles plainSettings (twoChanged second).files = ["s/a.txt", "s/b.txt"] := by
  rw [changedFiles, twoChanged_changes]
  rfl

end CommandLine

end TextScenario
