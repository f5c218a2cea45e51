import TextScenario.Proofs.CacheStorage
import TextScenario.Proofs.ScenarioListings

/-! Scans for changes. A scan reports the scenario files whose digest is not the one under their key;
taking note of files sets the entries of their keys, in order. -/

namespace TextScenario

theorem Except.mapM_eq {ε α β : Type} {action : α → Except ε β} {value : α → β} {items : List α}
    (done : ∀ item ∈ items, action item = .ok (value item)) :
    items.mapM action = .ok (items.map value) := by
  induction items with
  | nil => rfl
  | cons item rest ih =>
    rw [List.mapM_cons, done item (.head _), ih fun other inside => done other (.tail _ inside)]
    rfl

private theorem Except.mapM_cases {ε α β : Type} (action : α → Except ε β) (items : List α) :
    (∀ item ∈ items, ∃ result, action item = .ok result) ∨
      ∃ earlier item later failure, items = earlier ++ item :: later ∧
        (∀ other ∈ earlier, ∃ result, action other = .ok result) ∧ action item = .error failure ∧
          items.mapM action = .error failure := by
  induction items with
  | nil => exact .inl fun _ member => nomatch member
  | cons item rest ih =>
    cases done : action item with
    | error failure =>
      refine .inr ⟨[], item, rest, failure, rfl, by simp, done, ?_⟩
      rw [List.mapM_cons, done]
      rfl
    | ok result =>
      rcases ih with all | ⟨earlier, other, later, failure, rfl, before, failed, whole⟩
      · refine .inl fun other member => ?_
        rcases List.mem_cons.mp member with rfl | inside
        · exact ⟨result, done⟩
        · exact all other inside
      · refine .inr ⟨item :: earlier, other, later, failure, rfl, ?_, failed, ?_⟩
        · intro other member
          rcases List.mem_cons.mp member with rfl | inside
          · exact ⟨result, done⟩
          · exact before other inside
        · rw [List.mapM_cons, done, whole]
          rfl

namespace FileSystem

private theorem rawNames_absolutePath {location : Location} (below : location ≠ [])
    (plain : ∀ name ∈ location, Plain name) : rawNames (absolutePath location) = "" :: location := by
  have further (start : String) :
      rawNames (location.foldl (fun path name => path ++ "/" ++ name) start) =
        rawNames start ++ location := by
    clear below
    induction location generalizing start with
    | nil => simp
    | cons name rest ih =>
      have single : Text.splitAt '/' name.toList = [name.toList] :=
        Text.splitAt_absent (plain name (.head _)).2
      rw [List.foldl_cons, ih fun other inside => plain other (.tail _ inside)]
      simp [rawNames, Text.splitAt_separated, single]
  rw [absolutePath, if_neg (by simpa using below), further]
  rfl

theorem absolutePath_injective {first second : Location} (firstPlain : ∀ name ∈ first, Plain name)
    (secondPlain : ∀ name ∈ second, Plain name) (same : absolutePath first = absolutePath second) :
    first = second := by
  have root : rawNames (absolutePath []) = ["", ""] := by decide
  by_cases firstRoot : first = []
  · by_cases secondRoot : second = []
    · rw [firstRoot, secondRoot]
    · have names := rawNames_absolutePath secondRoot secondPlain
      rw [← same, firstRoot, root, List.cons.injEq] at names
      rw [← names.2] at secondPlain
      exact absurd rfl (secondPlain "" (.head _)).1
  · have names := rawNames_absolutePath firstRoot firstPlain
    by_cases secondRoot : second = []
    · rw [same, secondRoot, root, List.cons.injEq] at names
      rw [← names.2] at firstPlain
      exact absurd rfl (firstPlain "" (.head _)).1
    · rw [same, rawNames_absolutePath secondRoot secondPlain, List.cons.injEq] at names
      exact names.2.symm

variable {files : FileSystem} {directory file path : String} {location : Location}

private theorem resolved_of_lookup {entry : Entry} (found : files.lookup path = .ok (location, entry)) :
    files.resolved path = absolutePath location := by
  rw [resolved, canonical, found]
  rfl

theorem cacheKey_of_lookup {entry : Entry} (found : files.lookup path = .ok (location, entry)) :
    files.cacheKey path = files.shown (absolutePath location) := by
  rw [cacheKey, resolved_of_lookup found]

theorem digest_of_lookup {content : ByteArray}
    (found : files.lookup path = .ok (location, .file content)) :
    files.digest path = .ok (Digest.ofBytes content) := by
  rw [digest, readBytes_eq_ok_iff.mpr ⟨location, found⟩]

theorem digest_eq_ok {found : String} (read : files.digest path = .ok found) :
    ∃ location, ∃ content : ByteArray, files.lookup path = .ok (location, .file content) ∧
      found = Digest.ofBytes content := by
  rw [digest] at read
  split at read
  next content opened =>
    cases read
    obtain ⟨location, opened⟩ := readBytes_eq_ok_iff.mp opened
    exact ⟨location, content, opened, rfl⟩
  next => cases read

/-- Paths that are resolved alike and lead to something lead to the same. -/
theorem lookup_of_resolved (wellFormed : files.WellFormed) {other : String}
    {found otherFound : Location × Entry} (first : files.lookup path = .ok found)
    (second : files.lookup other = .ok otherFound)
    (same : files.resolved path = files.resolved other) : found = otherFound := by
  obtain ⟨place, entry⟩ := found
  obtain ⟨otherPlace, otherEntry⟩ := otherFound
  rw [resolved_of_lookup first, resolved_of_lookup second] at same
  obtain ⟨led, present⟩ := lookup_eq_ok_iff.mp first
  obtain ⟨otherLed, otherPresent⟩ := lookup_eq_ok_iff.mp second
  have one := absolutePath_injective (locate_reached wellFormed led).plain
    (locate_reached wellFormed otherLed).plain same
  subst one
  rw [present] at otherPresent
  cases otherPresent
  rfl

def scenarios (files : FileSystem) (directory : String) : List String :=
  (files.scenarioFiles directory).toOption.getD []

theorem scenarios_eq {found : List String} (listed : files.scenarioFiles directory = .ok found) :
    files.scenarios directory = found := by
  rw [scenarios, listed]
  rfl

theorem mem_scenarios (wellFormed : files.WellFormed) :
    file ∈ files.scenarios directory ↔ files.HasScenario directory file := by
  cases listed : files.scenarioFiles directory with
  | ok found => rw [scenarios_eq listed, mem_scenarioFiles wellFormed listed]
  | error failure =>
    constructor
    · intro member
      rw [scenarios, listed] at member
      cases member
    · rintro ⟨location, name, found, -⟩
      rw [scenarioFiles_ok found] at listed
      cases listed

theorem HasScenario.lookup (scenario : files.HasScenario directory file) :
    ∃ location content, files.lookup file = .ok (location, .file content) := by
  obtain ⟨-, -, -, -, -, -, isFile⟩ := scenario
  exact isFile_iff.mp isFile

theorem HasScenario.listed (scenario : files.HasScenario directory file) :
    ∃ found, files.scenarioFiles directory = .ok found := by
  obtain ⟨location, name, found, -⟩ := scenario
  exact ⟨_, scenarioFiles_ok found⟩

section Overwrite

variable {old : FileContent} (there : files.entry? location = some (.file old)) (content : ByteArray)
include there

theorem overwrite_cacheKey (path : String) :
    (files.put location (.file content)).cacheKey path = files.cacheKey path := by
  simp only [cacheKey, resolved, overwrite_canonical there]
  rfl

theorem overwrite_scenario (directory file : String) :
    (files.put location (.file content)).HasScenario directory file ↔
      files.HasScenario directory file := by
  simp only [HasScenario, overwrite_directory there, overwrite_present there, overwrite_isFile there]

end Overwrite

end FileSystem

namespace ChangeDetector

open FileSystem

variable {detector : ChangeDetector} {files : FileSystem} {file : String}

def change? (detector : ChangeDetector) (files : FileSystem) (file : String) : Option ScenarioChange :=
  (detector.changeOf? files file).toOption.join

theorem changeOf?_of_digest {digest : String} (read : files.digest file = .ok digest) :
    detector.changeOf? files file =
      .ok (if detector.cache.get? (files.cacheKey file) = some digest then none
        else some { file, digest }) := by
  rw [changeOf?, read]
  simp only [bind, Except.bind]
  split <;> rfl

theorem change?_eq_some_iff {change : ScenarioChange} :
    detector.change? files file = some change ↔
      change.file = file ∧ files.digest file = .ok change.digest ∧
        detector.cache.get? (files.cacheKey file) ≠ some change.digest := by
  obtain ⟨name, held⟩ := change
  cases read : files.digest file with
  | error failure =>
    have failed : detector.changeOf? files file = .error failure := by
      rw [changeOf?, read]
      rfl
    simp [change?, failed, Except.toOption]
  | ok digest =>
    simp only [change?, changeOf?_of_digest read, Except.toOption, Option.join_some]
    split
    next kept =>
      simp only [reduceCtorEq, false_iff, not_and, not_not, Except.ok.injEq]
      rintro - rfl
      exact kept
    next new =>
      simp only [Option.some.injEq, ScenarioChange.mk.injEq, Except.ok.injEq]
      constructor
      · rintro ⟨rfl, rfl⟩
        exact ⟨rfl, rfl, new⟩
      · rintro ⟨rfl, rfl, -⟩
        exact ⟨rfl, rfl⟩

/-- A scan goes through all scenario files, if they can be read. -/
theorem changes_ok {scenarios : List String}
    (listed : files.scenarioFiles detector.directory = .ok scenarios)
    (readable : ∀ file ∈ scenarios, ∃ digest, files.digest file = .ok digest) :
    detector.changes files = .ok (scenarios.filterMap (detector.change? files)) := by
  have looked : scenarios.mapM (detector.changeOf? files) =
      .ok (scenarios.map (detector.change? files)) := by
    apply Except.mapM_eq
    intro file member
    obtain ⟨digest, read⟩ := readable file member
    rw [change?, changeOf?_of_digest read]
    rfl
  rw [changes, listed]
  simp only [bind, Except.bind, looked, List.filterMap_map]
  rfl

private theorem changeOf?_error {failure : FileFailure} :
    detector.changeOf? files file = .error failure ↔ files.digest file = .error failure := by
  cases read : files.digest file with
  | error other =>
    rw [changeOf?, read]
    simp [bind, Except.bind]
  | ok digest => simp [changeOf?_of_digest read]

/-- A scan finds exactly the scenario files whose digest is not the one in the cache, in order. -/
structure Exact (detector : ChangeDetector) (files : FileSystem) (changes : List ScenarioChange) :
    Prop where
  ascending : (changes.map (·.file)).Pairwise (· < ·)
  complete : ∀ change, change ∈ changes ↔ files.HasScenario detector.directory change.file ∧
    files.digest change.file = .ok change.digest ∧
      detector.cache.get? (files.cacheKey change.file) ≠ some change.digest

/-- What a scan comes to: all scenario files are read, or the first that cannot be read ends it, or
their directory cannot be listed. -/
inductive Scanned (detector : ChangeDetector) (files : FileSystem) :
    Except FileFailure (List ScenarioChange) → Prop
  | exact {scenarios changes} (listed : files.scenarioFiles detector.directory = .ok scenarios)
      (readable : ∀ file ∈ scenarios, ∃ digest, files.digest file = .ok digest)
      (exact : detector.Exact files changes) : Scanned detector files (.ok changes)
  | unread {earlier file later failure}
      (listed : files.scenarioFiles detector.directory = .ok (earlier ++ file :: later))
      (readable : ∀ other ∈ earlier, ∃ digest, files.digest other = .ok digest)
      (unread : files.digest file = .error failure) : Scanned detector files (.error failure)
  | unlisted {failure} (unlisted : files.scenarioFiles detector.directory = .error failure) :
      Scanned detector files (.error failure)

private theorem filterMap_exact (wellFormed : files.WellFormed) {scenarios : List String}
    (listed : files.scenarioFiles detector.directory = .ok scenarios) :
    detector.Exact files (scenarios.filterMap (detector.change? files)) := by
  refine ⟨?_, ?_⟩
  · have order := scenarioFiles_ascending wellFormed listed
    rw [List.pairwise_map]
    refine order.filterMap _ ?_
    intro first second before change own other same
    rw [← (change?_eq_some_iff.mp own).1, ← (change?_eq_some_iff.mp same).1] at before
    exact before
  · intro change
    simp only [List.mem_filterMap, mem_scenarioFiles wellFormed listed]
    constructor
    · rintro ⟨file, member, shown⟩
      obtain ⟨rfl, rest⟩ := change?_eq_some_iff.mp shown
      exact ⟨member, rest⟩
    · rintro ⟨member, rest⟩
      exact ⟨change.file, member, change?_eq_some_iff.mpr ⟨rfl, rest⟩⟩

theorem changes_scanned (detector : ChangeDetector) (wellFormed : files.WellFormed) :
    detector.Scanned files (detector.changes files) := by
  cases listed : files.scenarioFiles detector.directory with
  | error failure =>
    rw [changes, listed]
    exact .unlisted listed
  | ok scenarios =>
    have digests {file : String} {result : Option ScenarioChange}
        (looked : detector.changeOf? files file = .ok result) :
        ∃ digest, files.digest file = .ok digest := by
      cases read : files.digest file with
      | error failure =>
        rw [changeOf?_error.mpr read] at looked
        cases looked
      | ok digest => exact ⟨digest, rfl⟩
    rcases Except.mapM_cases (detector.changeOf? files) scenarios with
      all | ⟨earlier, file, later, failure, rfl, before, failed, whole⟩
    · have readable := fun file member => digests (all file member).choose_spec
      rw [changes_ok listed readable]
      exact .exact listed readable (filterMap_exact wellFormed listed)
    · rw [changes, listed]
      simp only [bind, Except.bind, whole]
      exact .unread listed (fun other member => digests (before other member).choose_spec)
        (changeOf?_error.mp failed)

private theorem changes_eq_ok (wellFormed : files.WellFormed) {changes : List ScenarioChange}
    (found : detector.changes files = .ok changes) :
    (∃ scenarios, files.scenarioFiles detector.directory = .ok scenarios ∧
      ∀ file ∈ scenarios, ∃ digest, files.digest file = .ok digest) ∧ detector.Exact files changes := by
  have scanned := detector.changes_scanned wellFormed
  rw [found] at scanned
  cases scanned with
  | exact listed readable exact => exact ⟨⟨_, listed, readable⟩, exact⟩

theorem readable_of_ended (wellFormed : files.WellFormed)
    (ended : (detector.changes files).isOk = true)
    (scenario : files.HasScenario detector.directory file) :
    ∃ digest, files.digest file = .ok digest := by
  cases found : detector.changes files with
  | error failure =>
    rw [found] at ended
    cases ended
  | ok changes =>
    obtain ⟨⟨scenarios, listed, readable⟩, -⟩ := changes_eq_ok wellFormed found
    exact readable file ((mem_scenarioFiles wellFormed listed).mpr scenario)

theorem changes_exact (wellFormed : files.WellFormed) {changes : List ScenarioChange}
    (found : detector.changes files = .ok changes) : detector.Exact files changes :=
  (changes_eq_ok wellFormed found).2

def reports (detector : ChangeDetector) (files : FileSystem) (file : String) :
    Except FileFailure Bool :=
  (detector.changes files).map fun changes => changes.any (·.file == file)

/-- A scan that comes to an end reports the scenario files whose digest is not in the cache. -/
theorem reports_eq (wellFormed : files.WellFormed) (ended : (detector.changes files).isOk = true)
    (file : String) :
    ∃ shown, detector.reports files file = .ok shown ∧
      (shown = true ↔ files.HasScenario detector.directory file ∧ ∀ digest,
        files.digest file = .ok digest →
          detector.cache.get? (files.cacheKey file) ≠ some digest) := by
  cases found : detector.changes files with
  | error failure =>
    rw [found] at ended
    cases ended
  | ok changes =>
    refine ⟨_, by rw [reports, found]; rfl, ?_⟩
    have complete := (changes_exact wellFormed found).complete
    simp only [List.any_eq_true, beq_iff_eq]
    constructor
    · rintro ⟨change, member, rfl⟩
      obtain ⟨scenario, read, new⟩ := (complete change).mp member
      refine ⟨scenario, ?_⟩
      intro digest same
      rw [read] at same
      cases same
      exact new
    · rintro ⟨scenario, new⟩
      obtain ⟨digest, read⟩ := readable_of_ended wellFormed ended scenario
      exact ⟨{ file, digest }, (complete _).mpr ⟨scenario, read, new _ read⟩, rfl⟩

/-- Taking note of one file sets the entry of its key to the digest that it has, if it has one. -/
theorem note_cons_ok {cache final : ChangeCache} {path : String} {rest : List String}
    (noted : note files cache (path :: rest) = (.ok (), final)) :
    ∃ next, note files next rest = (.ok (), final) ∧ (cache.Sorted → next.Sorted) ∧
      ∀ key, next.get? key =
        if key = files.cacheKey path then (files.digest path).toOption else cache.get? key := by
  rw [note] at noted
  split at noted
  next there =>
    cases read : files.digest path with
    | error failure => simp [read] at noted
    | ok digest =>
      rw [read] at noted
      refine ⟨_, noted, fun sorted => sorted.insert _ _, ?_⟩
      intro key
      rw [ChangeCache.get?_insert]
      rfl
  next gone =>
    refine ⟨_, noted, fun sorted => sorted.erase _, ?_⟩
    intro key
    have unread : (files.digest path).toOption = none := by
      cases read : files.digest path with
      | error failure => rfl
      | ok digest =>
        obtain ⟨location, content, found, -⟩ := digest_eq_ok read
        exact absurd (exists?_iff.mpr ⟨_, _, found⟩) gone
    rw [ChangeCache.get?_erase, unread]

theorem note_sorted {cache final : ChangeCache} {paths : List String} (sorted : cache.Sorted)
    (noted : note files cache paths = (.ok (), final)) : final.Sorted := by
  induction paths generalizing cache with
  | nil =>
    cases noted
    exact sorted
  | cons path rest ih =>
    obtain ⟨next, later, ordered, -⟩ := note_cons_ok noted
    exact ih (ordered sorted) later

/-- The entry of a key once note was taken of files: the digest of the last one that has the key. -/
def notedEntry (files : FileSystem) (cache : ChangeCache) (paths : List String) (key : String) :
    Option String :=
  (paths.reverse.find? (files.cacheKey · == key)).elim (cache.get? key) fun path =>
    (files.digest path).toOption

theorem note_notedEntry {cache final : ChangeCache} {paths : List String}
    (noted : note files cache paths = (.ok (), final)) (key : String) :
    final.get? key = notedEntry files cache paths key := by
  induction paths generalizing cache with
  | nil =>
    cases noted
    rfl
  | cons path rest ih =>
    obtain ⟨next, later, -, entry⟩ := note_cons_ok noted
    rw [ih later, notedEntry, notedEntry, List.reverse_cons, List.find?_append]
    cases rest.reverse.find? (files.cacheKey · == key) with
    | some other => rfl
    | none =>
      by_cases own : files.cacheKey path = key
      · simp [entry, own]
      · simp [entry, own, Ne.symm own]

theorem notedEntry_absent {cache : ChangeCache} {paths : List String} {key : String}
    (unlisted : ∀ path ∈ paths, files.cacheKey path ≠ key) :
    notedEntry files cache paths key = cache.get? key := by
  have none : paths.reverse.find? (files.cacheKey · == key) = none := by
    apply List.find?_eq_none.mpr
    intro path member same
    exact unlisted path (List.mem_reverse.mp member) (beq_iff_eq.mp same)
  rw [notedEntry, none]
  rfl

theorem notedEntry_last {cache : ChangeCache} {earlier later : List String} {path : String}
    (last : ∀ other ∈ later, files.cacheKey other ≠ files.cacheKey path) :
    notedEntry files cache (earlier ++ path :: later) (files.cacheKey path) =
      (files.digest path).toOption := by
  have none : later.reverse.find? (files.cacheKey · == files.cacheKey path) = none := by
    apply List.find?_eq_none.mpr
    intro other member same
    exact last other (List.mem_reverse.mp member) (beq_iff_eq.mp same)
  have found : (earlier ++ path :: later).reverse.find? (files.cacheKey · == files.cacheKey path) =
      some path := by
    simp [List.find?_append, none]
  rw [notedEntry, found]
  rfl

/-- The entry of a key that is listed is the digest of a listed file with this key, if it has one. -/
theorem notedEntry_listed {cache : ChangeCache} {paths : List String} {key : String}
    (listed : ∃ path ∈ paths, files.cacheKey path = key) :
    ∃ path ∈ paths, files.cacheKey path = key ∧
      notedEntry files cache paths key = (files.digest path).toOption := by
  cases found : paths.reverse.find? (files.cacheKey · == key) with
  | none =>
    obtain ⟨path, member, named⟩ := listed
    have other := List.find?_eq_none.mp found path (List.mem_reverse.mpr member)
    exact absurd (beq_iff_eq.mpr named) other
  | some path =>
    refine ⟨path, List.mem_reverse.mp (List.mem_of_find?_eq_some found),
      by simpa using List.find?_some found, ?_⟩
    rw [notedEntry, found]
    rfl

theorem note_entry (holds : Option String → Prop) {cache final : ChangeCache} {paths : List String}
    {key : String} (noted : note files cache paths = (.ok (), final))
    (each : ∀ path ∈ paths, files.cacheKey path = key → holds (files.digest path).toOption)
    (start : holds (cache.get? key) ∨ ∃ path ∈ paths, files.cacheKey path = key) :
    holds (final.get? key) := by
  induction paths generalizing cache with
  | nil =>
    cases noted
    rcases start with before | ⟨path, member, -⟩
    · exact before
    · cases member
  | cons path rest ih =>
    obtain ⟨next, later, -, entry⟩ := note_cons_ok noted
    refine ih later (fun other inside => each other (.tail _ inside)) ?_
    rw [entry]
    split
    next own => exact .inl (each path (.head _) own.symm)
    next other =>
      rcases start with before | ⟨listed, member, named⟩
      · exact .inl before
      · rcases List.mem_cons.mp member with rfl | inside
        · exact absurd named.symm other
        · exact .inr ⟨listed, inside, named⟩

end ChangeDetector

end TextScenario
