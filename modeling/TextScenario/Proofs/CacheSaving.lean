import TextScenario.Proofs.CacheStorage

/-! Saving a cache to a file that is in place: the cache file and the temporary file stand for
themselves, at different places of directories that are there. What is saved is loaded, and what cannot
be saved leaves the old cache. -/

namespace TextScenario

namespace FileOperation

variable {files after : FileSystem} {operation : FileOperation} {rest : List FileOperation}

theorem changed_error {result : Except FileError FileSystem} {error : FileError}
    (failed : changed files result = (.error error, after)) : after = files ∧ result = .error error := by
  cases result with
  | error failure =>
    cases failed
    exact ⟨rfl, rfl⟩
  | ok other => cases failed

private theorem run_cons_error {failure : FileFailure}
    (failed : run files (operation :: rest) = (.error failure, after)) :
    (∃ error, operation.apply files = (.error error, after)) ∨
      ∃ between, operation.apply files = (.ok (), between) ∧
        run between rest = (.error failure, after) := by
  rw [run] at failed
  split at failed
  next between applied => exact .inr ⟨between, applied, failed⟩
  next error between applied =>
    cases failed
    exact .inl ⟨error, applied⟩

end FileOperation

namespace ChangeCache

open FileSystem

variable {cache : ChangeCache} {files other after : FileSystem} {path : String}
  {new old : Location}

private theorem load_congr (same : ∀ content, other.readBytes path = .ok content ↔
    files.readBytes path = .ok content) : load other path = load files path := by
  rw [load, load]
  cases read : files.readBytes path with
  | ok content => rw [(same content).mpr read]
  | error failure =>
    cases reread : other.readBytes path with
    | ok content =>
      rw [(same content).mp reread] at read
      cases read
    | error failure => rfl

theorem load_of_not_isFile (unfiled : files.isFile path = false) : load files path = {} := by
  rw [load]
  split
  next bytes read =>
    obtain ⟨location, found⟩ := readBytes_eq_ok_iff.mp read
    rw [isFile_iff.mpr ⟨location, bytes, found⟩] at unfiled
    cases unfiled
  next => rfl

theorem load_put {place : Location} (writable : files.Writable place) (content : FileContent)
    (apart : files.locate path ≠ .ok place) :
    load (files.put place (.file content)) path = load files path := by
  apply load_congr
  intro held
  rw [readBytes_eq_ok_iff, readBytes_eq_ok_iff]
  constructor
  · rintro ⟨location, found⟩
    obtain ⟨led, there⟩ := lookup_eq_ok_iff.mp found
    have before := locate_write writable led
    have different : location ≠ place := by
      rintro rfl
      exact apart before
    rw [entry?_put_other _ _ different] at there
    exact ⟨location, lookup_eq_ok_iff.mpr ⟨before, there⟩⟩
  · rintro ⟨location, found⟩
    obtain ⟨led, there⟩ := lookup_eq_ok_iff.mp found
    have different : location ≠ place := by
      rintro rfl
      exact apart led
    refine ⟨location, lookup_eq_ok_iff.mpr ⟨locate_put writable content led (by simp [there]), ?_⟩⟩
    rwa [entry?_put_other _ _ different]

/-- What a save that fails leaves: the files with the directory of the cache, and the temporary file if
it was written, with a part of the content if writing was cut short. -/
theorem save_error (wellFormed : files.WellFormed) {failure : FileFailure}
    (failed : cache.save files path = (.error failure, after)) :
    after = ready files path ∨ ∃ stored content error,
      (ready files path).locate (temporaryPath path) = .ok stored ∧
        (ready files path).Writable stored ∧
          after = (ready files path).put stored (.file content) ∧
            (files.cutShort ≠ none ∨
              content = ByteArray.empty ∧
                after.writeBytes (temporaryPath path) cache.toJson.pretty.toUTF8 = .error error ∨
              after.lookup (temporaryPath path) = .ok (stored, .file content) ∧
                after.rename (temporaryPath path) path = .error error) := by
  have formed := ready_wellFormed wellFormed path
  rcases save_cases failed with ⟨-, -, rfl⟩ | failed
  · exact .inl rfl
  rcases FileOperation.run_cons_error failed with ⟨error, clear⟩ | ⟨cleared, clear, failed⟩
  · exact .inl (FileOperation.changed_error clear).1
  obtain ⟨stored, storedAt, writable, rfl⟩ := writeBytes_ok formed (FileOperation.changed_ok clear)
  rcases FileOperation.run_cons_error failed with ⟨error, write⟩ | ⟨written, write, failed⟩
  · rcases fill_error write with ⟨count, message, short, part⟩ | ⟨rfl, unwritten⟩
    · have short : (ready files path).cutShort = some (count, message) := short
      have short : files.cutShort ≠ none := by
        rw [← (ready_grown files path).cutShort, short]
        simp
      rcases part with rfl | part
      · exact .inr ⟨stored, _, error, storedAt, writable, rfl, .inl short⟩
      · exact .inr ⟨stored, _, error, storedAt, writable,
          (writeBytes_cleared formed storedAt writable part).2, .inl short⟩
    · exact .inr ⟨stored, _, error, storedAt, writable, rfl, .inr (.inl ⟨rfl, unwritten⟩)⟩
  obtain ⟨leads, same⟩ := writeBytes_cleared formed storedAt writable (fill_ok write)
  have there := entry?_put_self (ready files path) (.file ByteArray.empty) writable.below
  have read := overwrite_lookup there cache.toJson.pretty.toUTF8 (temporaryPath path)
  rw [lookup_eq_ok_iff.mpr ⟨leads, there⟩, put_put, ← same] at read
  rcases FileOperation.run_cons_error failed with ⟨error, rename⟩ | ⟨renamed, rename, failed⟩
  · obtain ⟨rfl, unnamed⟩ := FileOperation.changed_error rename
    refine .inr ⟨stored, _, error, storedAt, writable, same, .inr (.inr ⟨?_, unnamed⟩)⟩
    simpa [Except.map] using read
  · cases failed

theorem isFile_grown (grown : Grown files other) (file : files.isFile path = true) :
    other.isFile path = true := by
  obtain ⟨location, content, found⟩ := isFile_iff.mp file
  exact isFile_iff.mpr ⟨location, content, grown.lookup found⟩

/-- New directories change what is loaded only if they complete the path of the cache file. -/
theorem load_grown (grown : Grown files other)
    (reached : other.isFile path = true → files.isFile path = true) :
    load other path = load files path := by
  cases file : files.isFile path with
  | false =>
    have unfiled : other.isFile path = false := by
      cases there : other.isFile path with
      | false => rfl
      | true => rw [← file, reached there]
    rw [load_of_not_isFile file, load_of_not_isFile unfiled]
  | true =>
    obtain ⟨location, content, found⟩ := isFile_iff.mp file
    rw [load, load, readBytes, readBytes, grown.lookup found, found]

private theorem isFile_put {place : Location} (writable : files.Writable place) (content : FileContent)
    (file : files.isFile path = true) : isFile (files.put place (.file content)) path = true := by
  obtain ⟨location, held, found⟩ := isFile_iff.mp file
  obtain ⟨led, there⟩ := lookup_eq_ok_iff.mp found
  have kept := locate_put writable content led (by simp [there])
  by_cases same : location = place
  · subst same
    exact isFile_iff.mpr ⟨location, content, lookup_eq_ok_iff.mpr
      ⟨kept, entry?_put_self _ _ writable.below⟩⟩
  · exact isFile_iff.mpr ⟨location, held, lookup_eq_ok_iff.mpr
      ⟨kept, by rw [entry?_put_other _ _ same, there]⟩⟩

private theorem load_cleared {place : Location} (writable : files.Writable place)
    (led : files.locate path = .ok place) : load (files.put place (.file ByteArray.empty)) path = {} := by
  have unread : ofBytes? .empty = none := by decide +kernel
  rw [load]
  split
  next bytes read =>
    obtain ⟨location, found⟩ := readBytes_eq_ok_iff.mp read
    obtain ⟨leads, there⟩ := lookup_eq_ok_iff.mp found
    cases led.symm.trans (locate_write writable leads)
    rw [entry?_put_self _ _ writable.below] at there
    cases there
    rw [unread]
    rfl
  next => rfl

/-- The temporary path does not lead where the cache path leads, or no write to it is cut short. -/
def Untorn (files : FileSystem) (path : String) : Prop :=
  ∀ place, (ready files path).locate path = .ok place →
    (ready files path).locate (temporaryPath path) = .ok place → files.cutShort = none

/-- A save that fails leaves what is loaded, if its directories do not complete the path and it does not
tear the cache file itself. -/
theorem load_unsaved (wellFormed : files.WellFormed) {failure : FileFailure}
    (reached : (ready files path).isFile path = true → files.isFile path = true)
    (untorn : Untorn files path) (failed : cache.save files path = (.error failure, after)) :
    load after path = load files path := by
  have formed := ready_wellFormed wellFormed path
  rw [← load_grown (ready_grown files path) reached]
  rcases save_error wellFormed failed with rfl |
    ⟨stored, content, error, storedAt, writable, rfl,
      short | ⟨rfl, unwritten⟩ | ⟨written, unnamed⟩⟩
  · rfl
  · apply load_put writable
    intro onto
    exact short (untorn stored onto storedAt)
  · by_cases onto : (ready files path).locate path = .ok stored
    · rcases writable.free with absent | ⟨old, there⟩
      · have before : (ready files path).isFile path = false := by
          simp [isFile, FileSystem.lookup, onto, absent, bind, Except.bind]
        rw [load_cleared writable onto, load_of_not_isFile before]
      · -- A file that could be made empty can be written.
        have temporary := lookup_eq_ok_iff.mpr
          ⟨locate_put writable ByteArray.empty storedAt (by simp [there]),
            entry?_put_self _ (.file ByteArray.empty) writable.below⟩
        rw [overwrite_ok temporary] at unwritten
        cases unwritten
    · exact load_put writable _ onto
  · cases file : isFile ((ready files path).put stored (.file content)) path with
    | false =>
      have before : (ready files path).isFile path = false := by
        apply Bool.eq_false_iff.mpr
        intro before
        rw [isFile_put writable content before] at file
        cases file
      rw [load_of_not_isFile file, load_of_not_isFile before]
    | true =>
      -- A file that is where the path leads would have been replaced.
      obtain ⟨location, held, found⟩ := isFile_iff.mp file
      obtain ⟨renamed, named⟩ := rename_files (writable.put formed _) written found
      rw [named] at unnamed
      cases unnamed

/-- A path leads to the cache file that was saved, unless it passes a link in its place on the way. -/
theorem Saved.arrives {content : ByteArray} {stored : Location} {moved : Entry}
    (saved : Saved files after path content stored old new moved) (wellFormed : files.WellFormed)
    (plain : ∀ target, files.entry? old ≠ some (.link target)) :
    (new ∉ files.passed path ∧ after.isFile path = true) ∨
      new ∈ files.passed path ∧ (∃ target, files.entry? new = some (.link target)) ∧
        after.isFile path = false := by
  obtain ⟨same, rfl⟩ : old = stored ∧ moved = .file content := by
    rcases saved.moved_cases with written | ⟨-, found, target, rfl⟩
    · exact written
    · exact absurd found (plain target)
  subst same
  obtain ⟨names, name, -, -, split, -, -, -, named, -⟩ := saved.beside wellFormed
  have kept (place : Location) (entry : Entry) (different : place ≠ new)
      (found : files.entry? place = some entry) (solid : ∀ content, entry ≠ .file content) :
      after.entry? place = some entry := by
    have notOld : place ≠ old := by
      rintro rfl
      rcases saved.writable.free with absent | ⟨held, file⟩
      · rw [absent] at found
        cases found
      · rw [file] at found
        cases found
        exact solid held rfl
    rw [saved.entry?_other notOld notOld different, found]
  have led := locate_replaced saved.working (by simp [split]) named.1 saved.free saved.entry?_new
    kept saved.newAt
  rcases led with ⟨aside, led⟩ | ⟨passed, linked, failed⟩
  · refine .inl ⟨aside, ?_⟩
    rcases locate_last after path with followed | ⟨location, target, leads, linked⟩
    · exact isFile_iff.mpr ⟨new, content, lookup_eq_ok_iff.mpr ⟨followed.trans led, saved.entry?_new⟩⟩
    · rw [led] at leads
      cases leads
      rw [saved.entry?_new] at linked
      cases linked
  · refine .inr ⟨passed, linked, ?_⟩
    rcases locate_last after path with followed | ⟨location, target, leads, -⟩
    · simp [isFile, FileSystem.lookup, followed, failed, bind, Except.bind]
    · rw [failed] at leads
      cases leads

/-- A cache path that leads to its own place, and so does its temporary path, to another one. -/
structure Placed (files : FileSystem) (path : String) (new old : Location) : Prop where
  followed : files.locate path = .ok new
  newAt : files.locate path false = .ok new
  oldAt : files.locate (temporaryPath path) false = .ok old
  unlinked : ∀ target, files.entry? old ≠ some (.link target)
  apart : new ≠ old

namespace Placed

/-- New directories do not complete the path: it leads to its place already. -/
theorem reached (placed : Placed files path new old) (grown : Grown files other)
    (file : other.isFile path = true) : files.isFile path = true := by
  obtain ⟨location, content, found⟩ := isFile_iff.mp file
  obtain ⟨led, there⟩ := lookup_eq_ok_iff.mp found
  cases grown.locate_unique placed.followed led
  rcases grown.entry new with same | ⟨-, created⟩
  · exact isFile_iff.mpr
      ⟨new, content, lookup_eq_ok_iff.mpr ⟨placed.followed, by rw [← same, there]⟩⟩
  · rw [created] at there
    cases there

/-- What is saved is loaded. -/
theorem load_saved (placed : Placed files path new old) (wellFormed : files.WellFormed)
    (grown : Grown files other) (otherFormed : other.WellFormed) (sorted : cache.Sorted)
    (done : cache.save other path = (.ok (), after)) : load after path = cache := by
  obtain ⟨stored, from_, to_, moved, saved⟩ := save_ok otherFormed done
  have grown := grown.trans (ready_grown other path)
  cases grown.locate_unique placed.oldAt saved.oldAt
  cases grown.locate_unique placed.newAt saved.newAt
  have oldPlain := grown.unlinked placed.unlinked
  have newPlain := grown.unlinked ((locate_reached wellFormed placed.followed).unlinked rfl)
  rcases saved.arrives (ready_wellFormed otherFormed path) oldPlain with ⟨-, file⟩ | ⟨-, linked, -⟩
  · exact save_load otherFormed sorted done file
  · obtain ⟨target, linked⟩ := linked
    exact absurd linked (newPlain target)

private theorem untorn (placed : Placed files path new old) (grown : Grown files other) :
    Untorn other path := by
  intro place led temporary
  have grown := grown.trans (ready_grown other path)
  cases grown.locate_unique placed.followed led
  rcases locate_last (ready other path) (temporaryPath path) with followed | ⟨place, target, leads, linked⟩
  · rw [temporary] at followed
    exact absurd (grown.locate_unique placed.oldAt followed.symm) placed.apart
  · cases grown.locate_unique placed.oldAt leads
    exact absurd linked (grown.unlinked placed.unlinked target)

/-- What cannot be saved leaves the cache that was there. -/
theorem load_unsaved (placed : Placed files path new old) (grown : Grown files other)
    (otherFormed : other.WellFormed) {failure : FileFailure}
    (failed : cache.save other path = (.error failure, after)) :
    load after path = load files path := by
  have complete (file : (ready other path).isFile path = true) : other.isFile path = true :=
    isFile_grown grown (placed.reached (grown.trans (ready_grown other path)) file)
  rw [ChangeCache.load_unsaved otherFormed complete (placed.untorn grown) failed,
    ChangeCache.load_grown grown (placed.reached grown)]

end Placed

end ChangeCache

end TextScenario
