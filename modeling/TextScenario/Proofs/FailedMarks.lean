import TextScenario.Proofs.CacheSaving
import TextScenario.Proofs.ChangeMarks

/-! Marks that fail. The cache on disk is as it was, whatever stage the save came to; the detector keeps
the notes that it took before the failure, and scans tell files apart by their keys alone. -/

namespace TextScenario

open FileSystem

namespace ChangeCache

variable {cache : ChangeCache} {files after : FileSystem} {path : String}

private theorem save_error_kept (wellFormed : files.WellFormed) {failure : FileFailure}
    (failed : cache.save files path = (.error failure, after)) {place : Location}
    (outside : place ∉ places files path) :
    after.entry? place = files.entry? place ∨
      files.entry? place = none ∧ after.entry? place = some .directory := by
  have grown := (ready_grown files path).entry place
  rcases save_error wellFormed failed with rfl | ⟨stored, content, -, storedAt, -, rfl, -⟩
  · exact grown
  · have apart : place ≠ stored := by
      rintro rfl
      exact outside (by simp [places, storedAt, Except.toOption])
    rwa [entry?_put_other _ _ apart]

end ChangeCache

namespace ChangeDetector

variable {detector marked : ChangeDetector} {files after : FileSystem} {paths : List String}
  {failure : FileFailure}

/-- Taking note of files fails at the first one that is there and has no digest. -/
theorem note_error {cache final : ChangeCache} (failed : note files cache paths = (.error failure, final)) :
    ∃ noted path rest, paths = noted ++ path :: rest ∧ note files cache noted = (.ok (), final) ∧
      files.exists? path = true ∧ files.digest path = .error failure := by
  induction paths generalizing cache with
  | nil => cases failed
  | cons path rest ih =>
    rw [note] at failed
    split at failed
    next there =>
      cases read : files.digest path with
      | error failure =>
        rw [read] at failed
        cases failed
        exact ⟨[], path, rest, rfl, rfl, there, read⟩
      | ok digest =>
        rw [read] at failed
        obtain ⟨noted, bad, later, rfl, done, facts⟩ := ih failed
        refine ⟨path :: noted, bad, later, rfl, ?_, facts⟩
        rw [note, if_pos there, read]
        exact done
    next gone =>
      obtain ⟨noted, bad, later, rfl, done, facts⟩ := ih failed
      refine ⟨path :: noted, bad, later, rfl, ?_, facts⟩
      rw [note, if_neg gone]
      exact done

private theorem note_readable {cache final : ChangeCache} (noted : note files cache paths = (.ok (), final)) :
    ∀ path ∈ paths, files.exists? path = true → ∃ digest, files.digest path = .ok digest := by
  induction paths generalizing cache with
  | nil => exact fun _ member => nomatch member
  | cons first rest ih =>
    obtain ⟨next, later, -, -⟩ := note_cons_ok noted
    intro path member there
    rcases List.mem_cons.mp member with rfl | inside
    · rw [note, if_pos there] at noted
      cases read : files.digest path with
      | error failure => simp [read] at noted
      | ok digest => exact ⟨digest, rfl⟩
    · exact ih later path inside there

/-- Where a mark has failed: at a file, with the files as they were, or at the cache file. -/
inductive Stopped (detector : ChangeDetector) (files : FileSystem) (failure : FileFailure)
    (marked : ChangeDetector) (after : FileSystem) : List String → Prop
  | unread {path rest} (there : files.exists? path = true)
      (unread : files.digest path = .error failure) (same : after = files) :
      Stopped detector files failure marked after (path :: rest)
  | unsaved (failed : marked.cache.save files detector.cachePath = (.error failure, after)) :
      Stopped detector files failure marked after []

private theorem mark_stopped (failed : detector.mark files paths = (.error failure, marked, after)) :
    ∃ noted rest, paths = noted ++ rest ∧ marked = { detector with cache := marked.cache } ∧
      note files detector.cache noted = (.ok (), marked.cache) ∧
        Stopped detector files failure marked after rest := by
  rw [mark] at failed
  cases noted : note files detector.cache paths with
  | mk result cache =>
    rw [noted] at failed
    cases result with
    | error =>
      cases failed
      obtain ⟨earlier, path, rest, rfl, done, there, unread⟩ := note_error noted
      exact ⟨earlier, path :: rest, rfl, rfl, done, .unread there unread rfl⟩
    | ok =>
      dsimp only at failed
      cases saved : cache.save files detector.cachePath with
      | mk result others =>
        rw [saved] at failed
        cases failed
        exact ⟨paths, [], by simp, rfl, noted, .unsaved saved⟩

def versionOf (files : FileSystem) (file : String) : Except FileFailure ScenarioChange :=
  (files.digest file).map fun digest => { file, digest }

def isNew (detector : ChangeDetector) (files : FileSystem) (change : ScenarioChange) : Bool :=
  detector.cache.get? (files.cacheKey change.file) != some change.digest

theorem changes_eq (detector : ChangeDetector) (files : FileSystem) :
    detector.changes files =
      (files.scenarioFiles detector.directory >>= fun paths => paths.mapM (versionOf files)).map
        (·.filter (detector.isNew files)) := by
  have each (paths : List String) :
      (paths.mapM (detector.changeOf? files)).map (·.filterMap id) =
        (paths.mapM (versionOf files)).map (·.filter (detector.isNew files)) := by
    induction paths with
    | nil => rfl
    | cons file rest ih =>
      rw [List.mapM_cons, List.mapM_cons, versionOf]
      cases read : files.digest file with
      | error failure =>
        rw [changeOf?, read]
        rfl
      | ok digest =>
        rw [changeOf?_of_digest read]
        revert ih
        cases rest.mapM (detector.changeOf? files) <;> cases rest.mapM (versionOf files) <;> intro ih
        · exact ih
        · cases ih
        · cases ih
        next changed versions =>
          have same := Except.ok.inj ih
          refine congrArg Except.ok ?_
          by_cases kept : detector.cache.get? (files.cacheKey file) = some digest
          · simpa [List.filter_cons, isNew, kept] using same
          · simpa [List.filter_cons, isNew, kept] using same
  rw [changes]
  cases files.scenarioFiles detector.directory with
  | error failure => rfl
  | ok scenarios => exact each scenarios

/-- The changes of a scan whose files have no key of these paths. -/
def changesBut (detector : ChangeDetector) (files : FileSystem) (keys : List String) :
    Except FileFailure (List ScenarioChange) :=
  (detector.changes files).map (·.filter fun change => files.cacheKey change.file ∉ keys)

/-- Detectors with the same entries for all other keys report the same of all other files. -/
theorem changesBut_congr {other : ChangeDetector} {keys : List String}
    (directory : other.directory = detector.directory)
    (entries : ∀ key ∉ keys, other.cache.get? key = detector.cache.get? key) (files : FileSystem) :
    other.changesBut files keys = detector.changesBut files keys := by
  rw [changesBut, changesBut, changes_eq, changes_eq, directory]
  generalize files.scenarioFiles detector.directory >>= _ = scanned
  cases scanned with
  | error failure => rfl
  | ok versions =>
    refine congrArg Except.ok ?_
    dsimp only
    rw [List.filter_filter, List.filter_filter]
    refine List.filter_congr fun change _ => ?_
    by_cases listed : files.cacheKey change.file ∈ keys
    · simp [listed]
    · simp [isNew, listed, entries _ listed]

/-- What is left of a mark that fails. What the cache file holds is what it held, files elsewhere are as
they were, and the detector has the entries of the files that were noted; scans tell these files from
others by their keys. -/
structure Fails (detector : ChangeDetector) (files : FileSystem) (failure : FileFailure)
    (marked : ChangeDetector) (after : FileSystem) (noted rest : List String) : Prop where
  readable : ∀ path ∈ noted, files.exists? path = true → ∃ digest, files.digest path = .ok digest
  stopped : Stopped detector files failure marked after rest
  reopened : ofPaths after detector.directory detector.cachePath =
    ofPaths files detector.directory detector.cachePath
  elsewhere : ∀ place ∉ ChangeCache.places files detector.cachePath,
    after.entry? place = files.entry? place ∨
      files.entry? place = none ∧ after.entry? place = some .directory
  entries : ∀ key, marked.cache.get? key = notedEntry files detector.cache noted key
  others : ∀ later, marked.changesBut later (noted.map files.cacheKey) =
    detector.changesBut later (noted.map files.cacheKey)

/-- The second path is a directory, which has no digest. -/
def halfMark : Except FileFailure Unit × ChangeDetector × FileSystem :=
  firstDetector.mark (scenarioBeside []) ["s/a.txt", "s"]

private theorem scenarioBeside_wellFormed : (scenarioBeside []).WellFormed where
  once := by decide
  named := by decide
  rooted entry member := hasParent_iff.mp (by revert entry; decide)
  working := rfl

/-- The cache file is a directory. -/
def unsavedMark : Except FileFailure Unit × ChangeDetector × FileSystem :=
  firstDetector.mark (scenarioBeside [(["c"], .directory)]) ["s/a.txt"]

def oldCache : ChangeCache :=
  { files := [("k", "v")] }

/-- The path of an old cache is complete once a directory is there that is not. -/
def beyondMissing : FileSystem :=
  { entries := [(["c"], .file oldCache.toJson.pretty.toUTF8), (["c.tmp"], .directory)] }

def completedMark : Except FileFailure Unit × ChangeDetector × FileSystem :=
  markNew beyondMissing "s" "a/../c" []

/-- A full disk with an old cache that has the name of its own temporary file. -/
def fullDisk : FileSystem :=
  { entries := [(["c.tmp"], .file oldCache.toJson.pretty.toUTF8)]
    cutShort := some (0, "No space left on device (os error 28)") }

def tornMark : Except FileFailure Unit × ChangeDetector × FileSystem :=
  mark (ofPaths fullDisk "s" "c.tmp") fullDisk []

end ChangeDetector

end TextScenario
