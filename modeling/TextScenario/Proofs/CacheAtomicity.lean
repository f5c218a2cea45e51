import TextScenario.Proofs.FailedMarks
import TextScenario.Proofs.FileMoves

/-! Saving a cache step by step. Wherever a save is cut off, the old cache or the new one is loaded, and
nothing has changed beside the cache file and the temporary file. -/

namespace TextScenario

open FileSystem

namespace FileOperation

/-- The states in the course of an operation. Directories are created one by one, and a file is written
piece by piece. -/
def Cut (files state : FileSystem) : FileOperation → Prop
  | .createDirectories path => Grown files state ∧ Grown state (files.createDirectories path).2
  | .write path content => ∃ count, files.writeBytes path (content.extract 0 count) = .ok state
  | .clear _ | .rename _ _ => False

/-- The states in the course of a sequence of operations, between them, within them and after the last. -/
inductive Passes (state : FileSystem) : FileSystem → List FileOperation → Prop
  | here {operations} : Passes state state operations
  | cut {files operation rest} (cut : operation.Cut files state) : Passes state files (operation :: rest)
  | failed {files operation rest error} (applied : operation.apply files = (.error error, state)) :
      Passes state files (operation :: rest)
  | next {files between operation rest} (applied : operation.apply files = (.ok (), between))
      (onward : Passes state between rest) : Passes state files (operation :: rest)

/-- A run passes through the state that it ends in, whether or not it fails. -/
theorem run_passes (files : FileSystem) (operations : List FileOperation) :
    Passes (run files operations).2 files operations := by
  induction operations generalizing files with
  | nil => exact .here
  | cons operation rest ih =>
    rw [run]
    cases applied : operation.apply files with
    | mk result between =>
      cases result with
      | error error => exact .failed applied
      | ok => exact .next applied (ih between)

end FileOperation

namespace ChangeCache

variable {cache : ChangeCache} {files state after : FileSystem} {path : String}

/-- The cache file and the temporary file are different files, and new directories do not complete the
path of a cache file. -/
structure Separate (files : FileSystem) (path : String) : Prop where
  complete : (ready files path).isFile path = true → files.isFile path = true
  apart : ∀ place, (ready files path).locate path = .ok place →
    (ready files path).locate (temporaryPath path) ≠ .ok place

/-- How far a save has come: to some of its directories, to the temporary file, to its end. -/
inductive Stage (cache : ChangeCache) (files : FileSystem) (path : String) (state : FileSystem) : Prop
  | growing (grown : Grown files state) (below : Grown state (ready files path))
  | writing {stored content} (led : (ready files path).locate (temporaryPath path) = .ok stored)
      (writable : (ready files path).Writable stored)
      (written : state = (ready files path).put stored (.file content))
  | saved (done : cache.save files path = (.ok (), state))

private theorem save_of_ready {result : Except FileFailure Unit}
    (created : ∀ parent, (FilePath.parent? path).filter (!·.isEmpty) = some parent →
      files.createDirectories parent = (.ok (), ready files path))
    (done : FileOperation.run (ready files path)
        [.clear (temporaryPath path), .write (temporaryPath path) cache.toJson.pretty.toUTF8,
          .rename (temporaryPath path) path] = (result, after)) :
    cache.save files path = (result, after) := by
  rw [save, saveOperations]
  cases found : (FilePath.parent? path).filter (!·.isEmpty) with
  | none =>
    rw [ready, found] at done
    simpa using done
  | some parent =>
    simp only [Option.map_some, Option.toList_some, List.cons_append, List.nil_append]
    rw [FileOperation.run, FileOperation.apply, created parent found]
    exact done

private theorem stage_of_ready (wellFormed : files.WellFormed)
    (created : ∀ parent, (FilePath.parent? path).filter (!·.isEmpty) = some parent →
      files.createDirectories parent = (.ok (), ready files path))
    (passes : FileOperation.Passes state (ready files path)
      [.clear (temporaryPath path), .write (temporaryPath path) cache.toJson.pretty.toUTF8,
        .rename (temporaryPath path) path]) : Stage cache files path state := by
  have formed := ready_wellFormed wellFormed path
  have unstarted : Stage cache files path (ready files path) :=
    .growing (ready_grown files path) (.refl _)
  cases passes with
  | here => exact unstarted
  | cut cut => exact cut.elim
  | failed applied =>
    obtain ⟨rfl, -⟩ := FileOperation.changed_error applied
    exact unstarted
  | next clear passes =>
  obtain ⟨stored, led, writable, rfl⟩ := writeBytes_ok formed (FileOperation.changed_ok clear)
  cases passes with
  | here => exact .writing led writable rfl
  | cut cut =>
    obtain ⟨count, write⟩ := cut
    exact .writing led writable (writeBytes_cleared formed led writable write).2
  | failed applied =>
    rcases fill_error applied with ⟨count, message, -, rfl | part⟩ | ⟨rfl, -⟩
    · exact .writing led writable rfl
    · exact .writing led writable (writeBytes_cleared formed led writable part).2
    · exact .writing led writable rfl
  | next write passes =>
  have written := (writeBytes_cleared formed led writable (fill_ok write)).2
  cases passes with
  | here => exact .writing led writable written
  | cut cut => exact cut.elim
  | failed applied =>
    obtain ⟨rfl, -⟩ := FileOperation.changed_error applied
    exact .writing led writable written
  | next rename passes =>
  cases passes
  refine .saved (save_of_ready created ?_)
  rw [FileOperation.run, clear]
  dsimp only
  rw [FileOperation.run, write]
  dsimp only
  rw [FileOperation.run, rename]
  rfl

/-- A save that is cut off anywhere has come to one of its stages. -/
theorem stage_of_passes (wellFormed : files.WellFormed)
    (passes : FileOperation.Passes state files (cache.saveOperations path)) :
    Stage cache files path state := by
  have grown := ready_grown files path
  rw [saveOperations] at passes
  cases found : (FilePath.parent? path).filter (!·.isEmpty) with
  | none =>
    have same : ready files path = files := by rw [ready, found]
    refine stage_of_ready wellFormed (by simp [found]) ?_
    rw [same]
    simpa [found] using passes
  | some parent =>
    have same : ready files path = (files.createDirectories parent).2 := by rw [ready, found]
    simp only [found, Option.map_some, Option.toList_some, List.cons_append, List.nil_append] at passes
    cases passes with
    | here => exact .growing (.refl files) grown
    | cut cut => exact .growing cut.1 (same ▸ cut.2)
    | failed applied =>
      have last : state = ready files path := by
        rw [same]
        exact (congrArg Prod.snd applied).symm
      exact last ▸ .growing grown (.refl _)
    | @next _ between _ _ applied passes =>
      have last : ready files path = between := same.trans (congrArg Prod.snd applied)
      rw [← last] at applied passes
      refine stage_of_ready wellFormed ?_ passes
      intro other again
      cases found.symm.trans again
      exact applied

private theorem save_replaces (wellFormed : files.WellFormed) (proper : files.ProperLinks)
    (separate : Separate files path) (done : cache.save files path = (.ok (), after))
    (file : (ready files path).isFile path = true) : after.isFile path = true := by
  have formed := ready_wellFormed wellFormed path
  have done := (save_cases done).resolve_left nofun
  obtain ⟨cleared, clear, done⟩ := FileOperation.run_cons_ok done
  obtain ⟨written, write, done⟩ := FileOperation.run_cons_ok done
  obtain ⟨renamed, rename, done⟩ := FileOperation.run_cons_ok done
  cases done
  obtain ⟨stored, led, writable, rfl⟩ := writeBytes_ok formed (FileOperation.changed_ok clear)
  obtain ⟨leads, rfl⟩ := writeBytes_cleared formed led writable (fill_ok write)
  have cleared := entry?_put_self (ready files path) (.file ByteArray.empty) writable.below
  have temporary : ((ready files path).put stored (.file cache.toJson.pretty.toUTF8)).lookup
      (temporaryPath path) = .ok (stored, .file cache.toJson.pretty.toUTF8) := by
    refine lookup_eq_ok_iff.mpr ⟨?_, entry?_put_self _ _ writable.below⟩
    rw [← put_put _ _ (.file ByteArray.empty), overwrite_locate cleared, leads]
  obtain ⟨held, old, found⟩ := isFile_iff.mp file
  obtain ⟨heldAt, there⟩ := lookup_eq_ok_iff.mp found
  have apart : stored ≠ held := by
    rintro rfl
    exact separate.apart stored heldAt led
  have replaced : ((ready files path).put stored (.file cache.toJson.pretty.toUTF8)).lookup path =
      .ok (held, .file old) := by
    refine lookup_eq_ok_iff.mpr ⟨locate_put writable _ heldAt (by simp [there]), ?_⟩
    rw [entry?_put_other _ _ (Ne.symm apart), there]
  obtain ⟨names, name, split⟩ :=
    (rawNames path).eq_nil_or_concat'.resolve_left (by simp [rawNames, Text.splitAt_ne_nil])
  obtain ⟨stem, temporaryNames⟩ := FilePath.rawNames_withExtension split
    (proper_of_file formed split found) "tmp" (by decide) (by decide)
  have read := rename_read (writable.put formed _)
    (((ready_grown files path).properLinks proper).put writable _) temporaryNames split
    (FileOperation.changed_ok rename) temporary replaced apart
  obtain ⟨location, found⟩ := readBytes_eq_ok_iff.mp read
  exact isFile_iff.mpr ⟨location, _, found⟩

/-- At any stage the old cache is loaded, or the new one from the end on. -/
theorem Stage.load (stage : Stage cache files path state) (wellFormed : files.WellFormed)
    (proper : files.ProperLinks) (sorted : cache.Sorted) (separate : Separate files path) :
    load state path = load files path ∨
      cache.save files path = (.ok (), state) ∧ load state path = cache := by
  have grown := ready_grown files path
  cases stage with
  | growing above below =>
    exact .inl (load_grown above fun file => separate.complete (isFile_grown below file))
  | writing led writable written =>
    subst written
    refine .inl ?_
    rw [load_put writable _ fun same => separate.apart _ same led]
    exact load_grown grown separate.complete
  | saved done =>
    by_cases file : state.isFile path = true
    · exact .inr ⟨done, save_load wellFormed sorted done file⟩
    · have before : files.isFile path = false := by
        apply Bool.eq_false_iff.mpr
        intro before
        exact file (save_replaces wellFormed proper separate done (isFile_grown grown before))
      rw [load_of_not_isFile before, load_of_not_isFile (Bool.eq_false_iff.mpr file)]
      exact .inl rfl

private theorem Stage.elsewhere (stage : Stage cache files path state) (wellFormed : files.WellFormed)
    {place : Location} (outside : place ∉ places files path) :
    state.entry? place = files.entry? place ∨
      files.entry? place = none ∧ state.entry? place = some .directory := by
  have grown := (ready_grown files path).entry place
  cases stage with
  | growing above _ => exact above.entry place
  | @writing stored content led _ written =>
    have apart : place ≠ stored := by
      rintro rfl
      exact outside (by simp [places, led, Except.toOption])
    rwa [written, entry?_put_other _ _ apart]
  | saved done =>
    obtain ⟨stored, old, new, moved, saved⟩ := save_ok wellFormed done
    obtain ⟨notStored, notOld, notNew⟩ := saved.outside outside
    rwa [saved.entry?_other notStored notOld notNew]

def firstCache : ChangeCache :=
  { files := [("a", "1")] }

def secondCache : ChangeCache :=
  { files := [("a", "2")] }

def besideCache (others : List (Location × Entry)) : FileSystem :=
  { entries := (["c"], .file firstCache.toJson.pretty.toUTF8) :: others }

/-- The temporary file stands for a file that is not there yet. -/
def linkedAside : FileSystem :=
  besideCache [(["c.tmp"], .link "x"), (["n"], .file (ByteArray.mk #[1]))]

private theorem linkedAside_wellFormed : linkedAside.WellFormed where
  once := by decide +kernel
  named := by decide +kernel
  rooted entry member := hasParent_iff.mp (by revert entry; decide +kernel)
  working := rfl

private theorem linkedAside_properLinks : linkedAside.ProperLinks := by
  refine .of_entries fun entry member target linked => ?_
  simp only [linkedAside, besideCache, List.mem_cons, List.not_mem_nil, or_false] at member
  rcases member with rfl | rfl | rfl <;> cases linked
  decide

private theorem linkedAside_separate : Separate linkedAside "c" where
  complete := id
  apart place led := by
    have toCache : (ready linkedAside "c").locate "c" = .ok ["c"] := by decide +kernel
    have toTemporary : (ready linkedAside "c").locate (temporaryPath "c") = .ok ["x"] := by
      decide +kernel
    cases toCache.symm.trans led
    rw [toTemporary]
    simp

def clearedAside : FileSystem :=
  (FileOperation.apply linkedAside (.clear (temporaryPath "c"))).2

/-- A save that was cut off while it wrote. -/
def halfSaved : FileSystem :=
  (FileOperation.apply clearedAside
    (.write (temporaryPath "c") (secondCache.toJson.pretty.toUTF8.extract 0 5))).2

private theorem halfSaved_passes :
    FileOperation.Passes halfSaved linkedAside (secondCache.saveOperations "c") := by
  have clear : FileOperation.apply linkedAside (.clear (temporaryPath "c")) = (.ok (), clearedAside) :=
    Prod.ext (by decide +kernel) rfl
  have write : FileOperation.apply clearedAside
      (.write (temporaryPath "c") (secondCache.toJson.pretty.toUTF8.extract 0 5)) =
        (.ok (), halfSaved) :=
    Prod.ext (by decide +kernel) rfl
  exact .next clear (.cut ⟨5, fill_ok write⟩)

/-- Beside a cache file is a file that has the name of its temporary file. -/
def besideNamesake : FileSystem :=
  { entries := [(["c.tmp"], .file (ByteArray.mk #[1]))] }

/-- The cache file has the name of its own temporary file. -/
def ownTemporary : FileSystem :=
  { entries := [(["c.tmp"], .file firstCache.toJson.pretty.toUTF8)] }

end ChangeCache

end TextScenario
