import TextScenario.Proofs.ChangeScans

/-! Marking files as run. What a detector reports after files were marked, and what a detector reports
that is opened on the saved cache. -/

namespace TextScenario

open FileSystem

namespace ChangeCache

variable {cache : ChangeCache} {files after : FileSystem} {path file : String} {place : Location}
  {entry : Entry}

/-- Whether the ways of all scenario files keep clear of what is saved. -/
def Clear (files : FileSystem) (directory path : String) : Prop :=
  ∀ file ∈ files.scenarios directory, ∀ place ∈ files.way file, place ∉ places files path

instance (files : FileSystem) (directory path : String) : Decidable (Clear files directory path) :=
  inferInstanceAs (Decidable (∀ file ∈ _, ∀ place ∈ _, place ∉ _))

theorem Saved.outside {content : ByteArray} {stored old new : Location} {moved : Entry}
    (saved : Saved (ready files path) after path content stored old new moved)
    (elsewhere : place ∉ places files path) : place ≠ stored ∧ place ≠ old ∧ place ≠ new := by
  simpa [places, saved.newAt, saved.oldAt, saved.storedAt, Except.toOption, and_comm, and_assoc,
    and_left_comm] using elsewhere

private theorem save_kept (wellFormed : files.WellFormed) (saved : cache.save files path = (.ok (), after))
    (outside : place ∉ places files path) (found : files.entry? place = some entry) :
    after.entry? place = some entry := by
  obtain ⟨stored, old, new, moved, saved⟩ := save_ok wellFormed saved
  obtain ⟨notStored, notOld, notNew⟩ := saved.outside outside
  rw [saved.entry?_other notStored notOld notNew]
  exact (ready_grown files path).present found

private theorem save_directory (wellFormed : files.WellFormed)
    (saved : cache.save files path = (.ok (), after)) (found : files.entry? place = some .directory) :
    after.entry? place = some .directory := by
  obtain ⟨stored, old, new, moved, saved⟩ := save_ok wellFormed saved
  have before := (ready_grown files path).present found
  have notStored : place ≠ stored := by
    rintro rfl
    exact saved.writable.not_directory before
  have notNew : place ≠ new := by
    rintro rfl
    exact saved.free before
  have notOld : place ≠ old := by
    rintro rfl
    exact saved.old_not_directory (by rw [entry?_put_other _ _ notStored, before])
  rw [saved.entry?_other notStored notOld notNew, before]

theorem save_wellFormed (wellFormed : files.WellFormed)
    (saved : cache.save files path = (.ok (), after)) : after.WellFormed := by
  obtain ⟨stored, old, new, moved, saved⟩ := save_ok wellFormed saved
  exact saved.wellFormed (ready_wellFormed wellFormed path)

private theorem save_working (wellFormed : files.WellFormed)
    (saved : cache.save files path = (.ok (), after)) : after.working = files.working := by
  obtain ⟨stored, old, new, moved, saved⟩ := save_ok wellFormed saved
  exact saved.working.trans (ready_grown files path).working

theorem save_shown (wellFormed : files.WellFormed)
    (saved : cache.save files path = (.ok (), after)) : after.shown = files.shown := by
  obtain ⟨stored, old, new, moved, saved⟩ := save_ok wellFormed saved
  exact saved.shown.trans (ready_grown files path).shown

/-- A file whose way keeps clear of the places stays where it is. -/
theorem save_lookup (wellFormed : files.WellFormed) (saved : cache.save files path = (.ok (), after))
    (clear : ∀ place ∈ files.way file, place ∉ places files path)
    (found : files.lookup file = .ok (place, entry)) : after.lookup file = .ok (place, entry) := by
  refine lookup_kept (save_working wellFormed saved) ?_ found
  intro location onWay entry there
  exact save_kept wellFormed saved (clear location onWay) there

/-- So does a scenario file, and it stays one. -/
theorem save_scenario (wellFormed : files.WellFormed)
    (saved : cache.save files path = (.ok (), after)) {directory : String}
    (clear : ∀ place ∈ files.way file, place ∉ places files path)
    (scenario : files.HasScenario directory file) : after.HasScenario directory file := by
  obtain ⟨location, name, found, there, named, rfl, isFile⟩ := scenario
  obtain ⟨entry, there⟩ := Option.ne_none_iff_exists'.mp there
  have plain := (wellFormed.names there name (by simp)).2
  obtain ⟨through, last⟩ := looked_join plain (isScenarioName_proper named) found isFile
  have onWay {place : Location}
      (looked : place ∈ files.looked (FilePath.join directory name)) :
      place ∉ places files path := clear place (List.mem_append_left _ looked)
  have lookedUp : after.lookup directory = .ok (location, .directory) := by
    refine lookup_kept (save_working wellFormed saved) ?_ found
    intro place member entry held
    rcases List.mem_append.mp member with above | own
    · exact save_kept wellFormed saved (onWay (through place above)) held
    · obtain ⟨led, directoryThere⟩ := lookup_eq_ok_iff.mp found
      have same : place = location := by simpa [led, Except.toOption] using own
      subst same
      rw [directoryThere] at held
      cases held
      exact save_directory wellFormed saved directoryThere
  obtain ⟨opened, content, found⟩ := isFile_iff.mp isFile
  refine ⟨location, name, lookedUp, ?_, named, rfl,
    isFile_iff.mpr ⟨opened, content, save_lookup wellFormed saved clear found⟩⟩
  rw [save_kept wellFormed saved (onWay last) there]
  simp

end ChangeCache

namespace ChangeDetector

variable {detector marked : ChangeDetector} {files after : FileSystem} {paths : List String}
  {file : String}

theorem mark_ok (done : detector.mark files paths = (.ok (), marked, after)) :
    marked = { detector with cache := marked.cache } ∧
      note files detector.cache paths = (.ok (), marked.cache) ∧
        marked.cache.save files detector.cachePath = (.ok (), after) := by
  rw [mark] at done
  cases noted : note files detector.cache paths with
  | mk result cache =>
    rw [noted] at done
    cases result with
    | error failure => cases done
    | ok =>
      dsimp only at done
      cases saved : cache.save files detector.cachePath with
      | mk result others =>
        rw [saved] at done
        cases done
        exact ⟨rfl, rfl, saved⟩

private theorem digest_congr {other : FileSystem} (same : other.lookup file = files.lookup file) :
    other.digest file = files.digest file := by
  rw [digest, digest, readBytes, readBytes, same]

/-- What a scan says of a scenario file is decided by the entry of its key. -/
theorem reports_scenario (detector : ChangeDetector) (wellFormed : files.WellFormed)
    (ended : (detector.changes files).isOk = true)
    (scenario : files.HasScenario detector.directory file) :
    detector.reports files file =
      .ok (decide (detector.cache.get? (files.cacheKey file) ≠ (files.digest file).toOption)) := by
  obtain ⟨shown, reported, decided⟩ := reports_eq wellFormed ended file
  obtain ⟨digest, read⟩ := readable_of_ended wellFormed ended scenario
  rw [reported]
  congr 1
  rw [Bool.eq_iff_iff, decided, decide_eq_true_iff, read]
  constructor
  · rintro ⟨-, new⟩
    exact new digest rfl
  · intro new
    refine ⟨scenario, ?_⟩
    intro other same
    cases same
    exact new

section Marked

variable (wellFormed : files.WellFormed)
  (clear : ChangeCache.Clear files detector.directory detector.cachePath)
  (done : detector.mark files paths = (.ok (), marked, after))
include wellFormed clear done

private theorem mark_stays (member : file ∈ files.scenarios detector.directory) :
    files.HasScenario detector.directory file ∧ after.HasScenario marked.directory file ∧
      after.lookup file = files.lookup file ∧ after.cacheKey file = files.cacheKey file := by
  obtain ⟨same, noted, saved⟩ := mark_ok done
  have directory : marked.directory = detector.directory := by rw [same]
  have scenario := (mem_scenarios wellFormed).mp member
  obtain ⟨location, content, found⟩ := scenario.lookup
  have still := ChangeCache.save_lookup wellFormed saved (clear file member) found
  have kept := ChangeCache.save_scenario wellFormed saved (clear file member) scenario
  refine ⟨scenario, directory ▸ kept, still.trans found.symm, ?_⟩
  rw [cacheKey_of_lookup still, cacheKey_of_lookup found, ChangeCache.save_shown wellFormed saved]

private theorem mark_ended (ended : (marked.changes after).isOk = true)
    (member : file ∈ files.scenarios detector.directory) : (detector.changes files).isOk = true := by
  obtain ⟨-, -, saved⟩ := mark_ok done
  have afterFormed := ChangeCache.save_wellFormed wellFormed saved
  obtain ⟨scenarios, listed⟩ := ((mem_scenarios wellFormed).mp member).listed
  have before : ∀ other ∈ scenarios, ∃ digest, files.digest other = .ok digest := by
    intro other inside
    rw [← scenarios_eq listed] at inside
    obtain ⟨-, kept, same, -⟩ := mark_stays wellFormed clear done inside
    rw [← digest_congr same]
    exact readable_of_ended afterFormed ended kept
  rw [changes_ok listed before]
  rfl

private theorem mark_reports (ended : (marked.changes after).isOk = true)
    (member : file ∈ files.scenarios detector.directory) :
    marked.reports after file = .ok (decide
      (notedEntry files detector.cache paths (files.cacheKey file) ≠ (files.digest file).toOption)) := by
  obtain ⟨-, noted, saved⟩ := mark_ok done
  obtain ⟨-, kept, same, key⟩ := mark_stays wellFormed clear done member
  rw [reports_scenario marked (ChangeCache.save_wellFormed wellFormed saved) ended kept, key,
    digest_congr same, note_notedEntry noted]

end Marked

section Overwritten

variable {location : Location} {old : FileContent} (wellFormed : files.WellFormed)
  (there : files.entry? location = some (.file old)) (content : ByteArray)
  (scenario : files.HasScenario detector.directory file)
  (ended : (detector.changes files).isOk = true)
include wellFormed there scenario ended

private theorem overwrite_ended :
    (detector.changes (files.put location (.file content))).isOk = true := by
  obtain ⟨relisted, again⟩ := ((overwrite_scenario there content _ file).mpr scenario).listed
  have readable : ∀ other ∈ relisted, ∃ digest,
      (files.put location (.file content)).digest other = .ok digest := by
    intro other inside
    have formed := overwrite_wellFormed there content wellFormed
    have before := (overwrite_scenario there content _ other).mp
      ((mem_scenarioFiles formed again).mp inside)
    obtain ⟨digest, read⟩ := readable_of_ended wellFormed ended before
    obtain ⟨place, held, opened, -⟩ := digest_eq_ok read
    have rewritten := overwrite_lookup there content other
    rw [opened] at rewritten
    by_cases same : place = location
    · simp only [Except.map, if_pos same] at rewritten
      exact ⟨_, digest_of_lookup rewritten⟩
    · simp only [Except.map, if_neg same] at rewritten
      exact ⟨_, digest_of_lookup rewritten⟩
  rw [changes_ok again readable]
  rfl

private theorem overwrite_reports {other : String}
    (same : (files.put location (.file content)).readBytes other = files.readBytes other) :
    detector.reports (files.put location (.file content)) other = detector.reports files other := by
  obtain ⟨shown, before, decided⟩ := reports_eq wellFormed ended other
  obtain ⟨reshown, now, redecided⟩ := reports_eq (overwrite_wellFormed there content wellFormed)
    (overwrite_ended wellFormed there content scenario ended) other
  rw [before, now]
  congr 1
  rw [Bool.eq_iff_iff, decided, redecided, overwrite_scenario there, overwrite_cacheKey there,
    digest, digest, same]

end Overwritten

/-- Paths of one key have one digest if they lead to something and no text stands for several paths. -/
theorem digest_of_listed (wellFormed : files.WellFormed) (told : files.shown.Injective)
    (scenario : files.isFile file = true) {path : String} (there : files.exists? path = true)
    (same : files.cacheKey path = files.cacheKey file) :
    (files.digest path).toOption = (files.digest file).toOption := by
  obtain ⟨location, content, found⟩ := isFile_iff.mp scenario
  obtain ⟨place, entry, opened⟩ := exists?_iff.mp there
  cases lookup_of_resolved wellFormed opened found (told same)
  rw [digest, digest, readBytes, readBytes, opened, found]
  simp only [bind, Except.bind]
  cases content.open <;> rfl

/-- What marking does to the reports on the scenario files that are there. A listed file is reported if
the last path of the list with its key is gone or has another digest; two files have one key only if one
text stands for both of their paths. -/
structure Settles (detector : ChangeDetector) (files : FileSystem) (paths : List String)
    (marked : ChangeDetector) (after : FileSystem) : Prop where
  listed : ∀ file ∈ files.scenarios detector.directory, ∀ earlier path later,
    paths = earlier ++ path :: later → files.cacheKey path = files.cacheKey file →
      (∀ other ∈ later, files.cacheKey other ≠ files.cacheKey file) →
        marked.reports after file =
          .ok (decide ((files.digest path).toOption ≠ (files.digest file).toOption))
  unlisted : ∀ file ∈ files.scenarios detector.directory,
    (∀ path ∈ paths, files.cacheKey path ≠ files.cacheKey file) →
      marked.reports after file = detector.reports files file
  overwritten : ∀ file ∈ files.scenarios detector.directory,
    (∃ path ∈ paths, files.cacheKey path = files.cacheKey file) → ∀ content,
      (∀ path ∈ paths, files.cacheKey path = files.cacheKey file →
        files.digest path ≠ .ok (Digest.ofBytes content)) →
        ∃ edited, after.writeBytes file content = .ok edited ∧
          marked.reports edited file = .ok true ∧
            ∀ other, edited.readBytes other = after.readBytes other →
              marked.reports edited other = marked.reports after other

def twoScenarios : FileSystem :=
  { entries := [(["s"], .directory), (["s", "a.txt"], .file (ByteArray.mk #[1])), (["s", "b.txt"], .file (ByteArray.mk #[2]))] }

def firstDetector : ChangeDetector :=
  { directory := "s", cachePath := "c", cache := {} }

def firstMark : Except FileFailure Unit × ChangeDetector × FileSystem :=
  firstDetector.mark twoScenarios ["s/a.txt"]

private theorem twoScenarios_wellFormed : twoScenarios.WellFormed where
  once := by decide
  named := by decide
  rooted entry member := hasParent_iff.mp (by revert entry; decide)
  working := rfl

theorem two_listed (found : files.lookup "s" = .ok (["s"], .directory))
    (names : (files.children ["s"]).map (·.1) = ["a.txt", "b.txt"])
    (first : files.isFile "s/a.txt" = true) (second : files.isFile "s/b.txt" = true) :
    files.scenarioFiles "s" = .ok ["s/a.txt", "s/b.txt"] := by
  have paths : (["a.txt", "b.txt"].filter isScenarioName).map (FilePath.join "s") =
      ["s/a.txt", "s/b.txt"] := by decide +kernel
  rw [scenarioFiles_ok found, names, List.mergeSort_of_pairwise (by decide +kernel), paths]
  simp [first, second]

private theorem twoScenarios_listed : twoScenarios.scenarios "s" = ["s/a.txt", "s/b.txt"] :=
  scenarios_eq (two_listed (lookup_eq_ok_iff.mpr ⟨by decide +kernel, rfl⟩) (by decide +kernel)
    (by decide +kernel) (by decide +kernel))

private theorem firstMark_done : firstMark = (.ok (), firstMark.2.1, firstMark.2.2) := by
  have first : firstMark.1 = .ok () := by decide +kernel
  rw [← first]

private theorem firstMark_ended : (firstMark.2.1.changes firstMark.2.2).isOk = true := by
  have saved := (mark_ok firstMark_done).2.2
  have found : firstMark.2.2.lookup "s" = .ok (["s"], .directory) :=
    lookup_eq_ok_iff.mpr ⟨by decide +kernel, ChangeCache.save_directory twoScenarios_wellFormed saved rfl⟩
  have listed : firstMark.2.2.scenarioFiles firstMark.2.1.directory = .ok ["s/a.txt", "s/b.txt"] :=
    two_listed found (by decide +kernel) (by decide +kernel) (by decide +kernel)
  have digests : firstMark.2.2.digest "s/a.txt" = twoScenarios.digest "s/a.txt" ∧
      firstMark.2.2.digest "s/b.txt" = twoScenarios.digest "s/b.txt" := by decide +kernel
  rw [changes_ok listed]
  · rfl
  · intro file member
    rcases List.mem_pair.mp member with rfl | rfl
    · exact ⟨_, digests.1⟩
    · exact ⟨_, digests.2⟩

def scenarioBeside (others : List (Location × Entry)) : FileSystem :=
  { entries := [(["s"], .directory), (["s", "a.txt"], .file (ByteArray.mk #[1]))] ++ others }

def markNew (files : FileSystem) (directory cachePath : String) (paths : List String) :
    Except FileFailure Unit × ChangeDetector × FileSystem :=
  mark { directory, cachePath, cache := {} } files paths

/-- A path that leads to nothing takes the key of a file with it. -/
def vanishedTwin : Except FileFailure Unit × ChangeDetector × FileSystem :=
  markNew (scenarioBeside []) "s" "c" ["s/a.txt", "s/a.txt/"]

/-- The path of the scenario directory is complete once the directory of the cache is there. -/
def completedPath : Except FileFailure Unit × ChangeDetector × FileSystem :=
  markNew (scenarioBeside []) "c/../s" "c/c" []

/-- A link to the cache file takes the place of the cache file. -/
def linkedTemporary : Except FileFailure Unit × ChangeDetector × FileSystem :=
  markNew (scenarioBeside [(["c.tmp"], .link "c")]) "s" "c" ["s/a.txt"]

/-- The cache is written into a scenario file that the temporary file stands for. -/
def linkedScenario : Except FileFailure Unit × ChangeDetector × FileSystem :=
  markNew (scenarioBeside [(["c.tmp"], .link "s/a.txt")]) "s" "c" ["s/a.txt"]

/-- The cache file takes the place of the link that leads to the scenario files. -/
def replacedLink : Except FileFailure Unit × ChangeDetector × FileSystem :=
  markNew (scenarioBeside [(["c"], .link "s")]) "c" "c" []

end ChangeDetector

end TextScenario
