import Mathlib.Data.List.Induction
import Mathlib.Data.String.Basic
import TextScenario.Change.Cache
import TextScenario.Proofs.FileChanges
import TextScenario.Proofs.FileLeads
import TextScenario.Proofs.FileNames
import TextScenario.Proofs.JsonText

/-! The change cache on disk. What a cache is written as is read as the same cache, and saving one
changes the files at three places at most: the cache file, the temporary file, and what the temporary
file stands for if it is a link. -/

namespace TextScenario

namespace Json

variable {α : Type}

/-- Fields in the order of their names, each name once. -/
def Ascending (fields : List (String × α)) : Prop :=
  fields.Pairwise fun first second => first.1 < second.1

private theorem mem_insertField {name : String} {value : α} {fields : List (String × α)}
    {field : String × α} (member : field ∈ insertField name value fields) :
    field = (name, value) ∨ field ∈ fields := by
  induction fields with
  | nil => exact .inl (List.mem_singleton.mp member)
  | cons first rest ih =>
    obtain ⟨other, kept⟩ := first
    rw [insertField] at member
    split at member
    · rcases List.mem_cons.mp member with same | inside
      · exact .inl same
      · exact .inr inside
    split at member
    · rcases List.mem_cons.mp member with same | inside
      · exact .inl same
      · exact .inr (.tail _ inside)
    · rcases List.mem_cons.mp member with same | inside
      · exact .inr (by simp [same])
      · rcases ih inside with same | inside
        · exact .inl same
        · exact .inr (.tail _ inside)

private theorem insertField_ascending (name : String) (value : α) {fields : List (String × α)}
    (ascending : Ascending fields) : Ascending (insertField name value fields) := by
  induction fields with
  | nil => exact List.pairwise_singleton _ _
  | cons first rest ih =>
    obtain ⟨other, kept⟩ := first
    obtain ⟨least, later⟩ := List.pairwise_cons.mp ascending
    rw [insertField]
    split
    next before =>
      refine List.pairwise_cons.mpr ⟨?_, ascending⟩
      intro field inside
      rcases List.mem_cons.mp inside with rfl | inside
      · exact before
      · exact before.trans (least field inside)
    split
    next same =>
      subst same
      exact List.pairwise_cons.mpr ⟨least, later⟩
    next notBefore different =>
      refine List.pairwise_cons.mpr ⟨?_, ih later⟩
      intro field inside
      rcases mem_insertField inside with rfl | inside
      · exact lt_of_le_of_ne (not_lt.mp notBefore) (Ne.symm different)
      · exact least field inside

private theorem foldl_insertField_ascending (fields sorted : List (String × α))
    (ascending : Ascending sorted) :
    Ascending (fields.foldl (fun sorted field => insertField field.1 field.2 sorted) sorted) := by
  induction fields generalizing sorted with
  | nil => exact ascending
  | cons field rest ih => exact ih _ (insertField_ascending field.1 field.2 ascending)

private theorem sortFields_ascending (fields : List (String × α)) : Ascending (sortFields fields) :=
  foldl_insertField_ascending fields [] .nil

private theorem insertField_last (name : String) (value : α) {fields : List (String × α)}
    (greatest : ∀ field ∈ fields, field.1 < name) :
    insertField name value fields = fields ++ [(name, value)] := by
  induction fields with
  | nil => rfl
  | cons first rest ih =>
    obtain ⟨other, kept⟩ := first
    have before : other < name := greatest _ (.head _)
    rw [insertField, if_neg before.asymm, if_neg (ne_of_gt before),
      ih fun field inside => greatest field (.tail _ inside)]
    rfl

private theorem sortFields_of_ascending {fields : List (String × α)} (ascending : Ascending fields) :
    sortFields fields = fields := by
  induction fields using List.reverseRecOn with
  | nil => rfl
  | append_singleton fields field ih =>
    obtain ⟨earlier, -, greatest⟩ := List.pairwise_append.mp ascending
    have sorted := ih earlier
    rw [sortFields] at sorted ⊢
    rw [List.foldl_concat, sorted]
    exact insertField_last field.1 field.2 fun other inside => greatest other inside field (by simp)

end Json

namespace ChangeCache

open FileSystem

/-- A cache whose files are listed in order and once. -/
def Sorted (cache : ChangeCache) : Prop :=
  Json.Ascending cache.files

theorem Sorted.insert {cache : ChangeCache} (sorted : cache.Sorted) (key digest : String) :
    (cache.insert key digest).Sorted :=
  Json.insertField_ascending key digest sorted

theorem Sorted.erase {cache : ChangeCache} (sorted : cache.Sorted) (key : String) :
    (cache.erase key).Sorted :=
  sorted.sublist List.filter_sublist

/-- What is written for a cache, read up to the texts in it. -/
def written (cache : ChangeCache) : Json :=
  .object [(Json.writtenText "files", .object (cache.files.map fun (key, digest) =>
    (Json.writtenText key, .text (Json.writtenText digest))))]

private theorem readBytes?_written (cache : ChangeCache) :
    Json.readBytes? cache.toJson.pretty.toUTF8 = some cache.written := by
  let textual (json : Json) : Json := (json.text?.map fun text => Json.text (Json.writtenText text)).getD .null
  have files : (cache.files.map fun (key, digest) => (key, Json.text digest)).map
      (fun field => (Json.writtenText field.1, textual field.2)) =
      cache.files.map fun (key, digest) => (Json.writtenText key, .text (Json.writtenText digest)) := by
    rw [List.map_map]
    rfl
  apply Json.readBytes?_of_reads
  refine Json.reads_object 0 [] (fun _ => .object (cache.files.map fun (key, digest) =>
    (Json.writtenText key, .text (Json.writtenText digest)))) _ ?_
  intro field inside frame
  cases List.mem_singleton.mp inside
  rw [← files]
  refine Json.reads_object 1 [frame] textual _ ?_
  intro field inside other
  obtain ⟨⟨key, digest⟩, -, rfl⟩ := List.mem_map.mp inside
  simp only [Json.indented, Json.compact]
  exact .quoted digest rfl

private theorem named?_written {α : Type} (value : α → Json) (entries : List (String × α)) :
    Json.named? (.object (entries.map fun entry => (Json.writtenText entry.1, value entry.2))) =
      some (.object (entries.map fun entry => (entry.1, value entry.2))) := by
  have read : (entries.map fun entry => (Json.writtenText entry.1, value entry.2)).mapM
      (fun (field : String × Json) => (Json.textOf? field.1).map (·, field.2)) =
      some (entries.map fun entry => (entry.1, value entry.2)) := by
    induction entries with
    | nil => rfl
    | cons entry rest ih =>
      rw [List.map_cons, List.mapM_cons, ih, Json.textOf?_writtenText]
      rfl
  simp only [Json.named?, read]
  rfl

private theorem texts_read (entries : List (String × String)) :
    (entries.map fun entry => (entry.1, Json.text (Json.writtenText entry.2))).mapM
      (fun field => (field.2.text?.bind Json.textOf?).map (field.1, ·)) = some entries := by
  induction entries with
  | nil => rfl
  | cons entry rest ih =>
    rw [List.map_cons, List.mapM_cons, ih]
    simp [Json.text?, Json.textOf?_writtenText]

private theorem ofWritten?_written {cache : ChangeCache} (sorted : cache.Sorted) :
    ofWritten? cache.written = some cache := by
  have outer : cache.written.named? = some (.object [("files", .object (cache.files.map
      fun entry => (Json.writtenText entry.1, .text (Json.writtenText entry.2))))]) :=
    named?_written (fun fields => fields) [("files", _)]
  have inner := named?_written (fun digest => .text (Json.writtenText digest)) cache.files
  have record (json : Json) : Json.record? ["files"] 0 (.object [("files", json)]) = some [("files", json)] := by
    simp [Json.record?]
  have found (json : Json) (decode : Json → Option ChangeCache) :
      Json.optional? [("files", json)] "files" {} decode = decode json := by
    simp [Json.optional?]
  simp only [ofWritten?, outer, record, found, inner, Json.fields?, texts_read, Option.bind_eq_bind,
    Option.bind_some, Json.sortFields_of_ascending sorted]

/-- What a cache is written as is read as this cache. -/
theorem ofJson?_toJson {cache : ChangeCache} (sorted : cache.Sorted) : ofJson? cache.toJson = some cache := by
  rw [ofJson?, ofBytes?, readBytes?_written]
  exact ofWritten?_written sorted

private theorem ofWritten?_sorted {json : Json} {cache : ChangeCache} (read : ofWritten? json = some cache) :
    cache.Sorted := by
  simp only [ofWritten?, Option.bind_eq_bind, Option.bind_eq_some_iff] at read
  obtain ⟨named, -, record, -, read⟩ := read
  rw [Json.optional?] at read
  split at read
  · simp only [Option.bind_eq_some_iff, Option.some.injEq] at read
    obtain ⟨files, -, fields, -, entries, -, rfl⟩ := read
    exact Json.sortFields_ascending entries
  · cases read
    exact .nil

theorem load_sorted (files : FileSystem) (path : String) : (load files path).Sorted := by
  rw [load]
  split
  next bytes read =>
    cases found : ofBytes? bytes with
    | none => exact .nil
    | some cache =>
      obtain ⟨json, -, decoded⟩ := Option.bind_eq_some_iff.mp found
      exact ofWritten?_sorted decoded
  next => exact .nil

/-- The files once the directory of a cache file is there. -/
def ready (files : FileSystem) (path : String) : FileSystem :=
  match (FilePath.parent? path).filter (!·.isEmpty) with
  | some parent => (files.createDirectories parent).2
  | none => files

/-- The places that saving a cache writes to: the cache file, the temporary file, and what the
temporary file stands for if it is a link. -/
def places (files : FileSystem) (path : String) : List Location :=
  [(ready files path).locate path false, (ready files path).locate (temporaryPath path) false,
    (ready files path).locate (temporaryPath path)].filterMap Except.toOption

/-- What a save that succeeds does once the directory of the cache file is there: what is `moved`
from the `old` place to the `new` one is the written file, or a link to where it is `stored`. -/
structure Saved (files after : FileSystem) (path : String) (content : ByteArray)
    (stored old new : Location) (moved : Entry) : Prop where
  storedAt : files.locate (temporaryPath path) = .ok stored
  oldAt : files.locate (temporaryPath path) false = .ok old
  newAt : files.locate path false = .ok new
  writable : files.Writable stored
  found : entry? (files.put stored (.file content)) old = some moved
  free : files.entry? new ≠ some .directory
  inside : files.entry? new.dropLast = some .directory
  unended : path.toList.getLast? ≠ some '/'
  after_eq : after = ((files.put stored (.file content)).erase old).put new moved

theorem ready_grown (files : FileSystem) (path : String) : Grown files (ready files path) := by
  rw [ready]
  split
  · exact createDirectories_grown files _
  · exact .refl files

theorem ready_wellFormed {files : FileSystem} (wellFormed : files.WellFormed) (path : String) :
    (ready files path).WellFormed := by
  rw [ready]
  split
  · exact createDirectories_wellFormed wellFormed _
  · exact wellFormed

/-- A save either ends without the directory of the cache file, or goes on in it. -/
theorem save_cases {cache : ChangeCache} {files after : FileSystem} {path : String}
    {result : Except FileFailure Unit} (saved : cache.save files path = (result, after)) :
    (∃ failure, result = .error failure ∧ after = ready files path) ∨
      FileOperation.run (ready files path)
        [.clear (temporaryPath path), .write (temporaryPath path) cache.toJson.pretty.toUTF8,
          .rename (temporaryPath path) path] = (result, after) := by
  rw [save, saveOperations] at saved
  rw [ready]
  cases found : (FilePath.parent? path).filter (!·.isEmpty) with
  | none => exact .inr (by simpa [found] using saved)
  | some parent =>
    simp only [found, Option.map_some, Option.toList_some, List.cons_append, List.nil_append] at saved
    rw [FileOperation.run] at saved
    split at saved
    next between created =>
      have same : between = (files.createDirectories parent).2 := (congrArg Prod.snd created).symm
      exact .inr (by simpa only [same] using saved)
    next error between created =>
      cases saved
      exact .inl ⟨_, rfl, (congrArg Prod.snd created).symm⟩

variable {cache : ChangeCache} {files after : FileSystem} {path : String} {content : ByteArray}
  {stored old new location : Location} {moved : Entry}

theorem save_ok (wellFormed : files.WellFormed) (saved : cache.save files path = (.ok (), after)) :
    ∃ stored old new moved,
      Saved (ready files path) after path cache.toJson.pretty.toUTF8 stored old new moved := by
  have wellFormed := ready_wellFormed wellFormed path
  have saved := (save_cases saved).resolve_left nofun
  obtain ⟨cleared, clear, saved⟩ := FileOperation.run_cons_ok saved
  obtain ⟨written, write, saved⟩ := FileOperation.run_cons_ok saved
  obtain ⟨renamed, rename, saved⟩ := FileOperation.run_cons_ok saved
  cases saved
  obtain ⟨stored, storedAt, writable, rfl⟩ :=
    rewrite_ok wellFormed (FileOperation.changed_ok clear) (fill_ok write)
  obtain ⟨old, new, moved, oldAt, newAt, found, free, inside, unended, rfl⟩ :=
    rename_ok (FileOperation.changed_ok rename)
  refine ⟨stored, old, new, moved, storedAt, locate_write writable oldAt,
    locate_write writable newAt, writable, found, ?_, ?_, unended, rfl⟩
  · by_cases same : new = stored
    · subst same
      exact writable.not_directory
    · rwa [entry?_put_other _ _ same] at free
  · by_cases same : new.dropLast = stored
    · rw [same, entry?_put_self _ _ writable.below] at inside
      cases inside
    · rwa [entry?_put_other _ _ same] at inside

namespace Saved

/-- What is renamed is the file that was written, or a link to it. -/
theorem moved_cases (saved : Saved files after path content stored old new moved) :
    (old = stored ∧ moved = .file content) ∨
      (old ≠ stored ∧ files.entry? old = some moved ∧ ∃ target, moved = .link target) := by
  have found := saved.found
  by_cases same : old = stored
  · rw [same, entry?_put_self _ _ saved.writable.below] at found
    cases found
    exact .inl ⟨same, rfl⟩
  · rw [entry?_put_other _ _ same] at found
    refine .inr ⟨same, found, ?_⟩
    rcases locate_last files (temporaryPath path) with unlinked | ⟨place, target, led, linked⟩
    · rw [saved.storedAt, saved.oldAt] at unlinked
      cases unlinked
      exact absurd rfl same
    · rw [saved.oldAt] at led
      cases led
      rw [found] at linked
      cases linked
      exact ⟨target, rfl⟩

theorem old_not_directory (saved : Saved files after path content stored old new moved) :
    entry? (files.put stored (.file content)) old ≠ some .directory := by
  rw [saved.found]
  rcases saved.moved_cases with ⟨-, rfl⟩ | ⟨-, -, target, rfl⟩ <;> simp

private theorem new_below (saved : Saved files after path content stored old new moved) : new ≠ [] := by
  rintro rfl
  exact saved.free rfl

theorem entry?_new (saved : Saved files after path content stored old new moved) :
    after.entry? new = some moved := by
  rw [saved.after_eq, entry?_put_self _ _ saved.new_below]

theorem entry?_other (saved : Saved files after path content stored old new moved)
    (notStored : location ≠ stored) (notOld : location ≠ old) (notNew : location ≠ new) :
    after.entry? location = files.entry? location := by
  rw [saved.after_eq, entry?_put_other _ _ notNew, entry?_erase_other _ notOld,
    entry?_put_other _ _ notStored]

theorem working (saved : Saved files after path content stored old new moved) :
    after.working = files.working := by
  rw [saved.after_eq]
  rfl

theorem shown (saved : Saved files after path content stored old new moved) :
    after.shown = files.shown := by
  funext path
  rw [saved.after_eq]
  rfl

theorem wellFormed (saved : Saved files after path content stored old new moved)
    (wellFormed : files.WellFormed) : after.WellFormed := by
  have written := saved.writable.put wellFormed (.file content)
  have erased := written.erase saved.old_not_directory
  have kept {place : Location} (found : files.entry? place = some .directory) :
      entry? ((files.put stored (.file content)).erase old) place = some .directory := by
    have stays : entry? (files.put stored (.file content)) place = some .directory := by
      rw [entry?_put_other]
      · exact found
      · rintro rfl
        exact saved.writable.not_directory found
    rw [entry?_erase_other]
    · exact stays
    · rintro rfl
      exact saved.old_not_directory stays
  rw [saved.after_eq]
  refine erased.put moved (kept saved.inside) (locate_reached wellFormed saved.newAt).plain ?_
  intro directory
  by_cases same : new = old
  · subst same
    rw [entry?_erase_self _ saved.new_below] at directory
    cases directory
  · rw [entry?_erase_other _ same] at directory
    by_cases equal : new = stored
    · rw [equal, entry?_put_self _ _ saved.writable.below] at directory
      cases directory
    · rw [entry?_put_other _ _ equal] at directory
      exact saved.free directory

/-- The cache file and the temporary file have their names in one directory. -/
theorem beside (saved : Saved files after path content stored old new moved)
    (wellFormed : files.WellFormed) :
    ∃ names name temporary directory, rawNames path = names ++ [name] ∧ name ≠ "" ∧
      files.Leads true (origin path files.working) names directory ∧
      new = directory ++ [name] ∧ Names name ∧ old = directory ++ [temporary] ∧ Names temporary ∧
      files.Leads true directory [temporary] stored := by
  have start (path : String) := origin_directory path wellFormed.working
  have written : path ≠ "" := by
    rintro rfl
    cases saved.newAt
  obtain ⟨names, name, split⟩ :=
    (rawNames path).eq_nil_or_concat'.resolve_left (by simp [rawNames, Text.splitAt_ne_nil])
  have nonempty : name ≠ "" := by
    rintro rfl
    exact rawNames_getLast? written saved.unended (by simp [split])
  obtain ⟨directory, above, found, toNew⟩ :=
    Leads.parent wellFormed (start path) nonempty (split ▸ locate_leads saved.newAt)
  have proper : FilePath.Proper name := by
    refine ⟨nonempty, ?_, ?_⟩
    · rintro rfl
      cases (Leads.here_iff (.inr rfl)).mp toNew
      exact saved.free found
    · rintro rfl
      cases Leads.up_iff.mp toNew
      exact saved.free (wellFormed.parent found)
  obtain ⟨stem, renamed⟩ :=
    FilePath.rawNames_withExtension split proper "tmp" (by decide) (by decide)
  have temporary : FilePath.Proper (stem ++ "." ++ "tmp") := by
    have long : 3 < (stem ++ "." ++ "tmp").length := by
      simp only [String.length_append]
      have dot : ".".length = 1 := rfl
      have extension : "tmp".length = 3 := rfl
      omega
    refine ⟨?_, ?_, ?_⟩ <;> intro same <;> rw [same] at long <;> revert long <;> decide
  have sameOrigin : origin (temporaryPath path) files.working = origin path files.working := by
    rw [origin, origin, temporaryPath, FilePath.isAbsolute_eq renamed temporary.1,
      FilePath.isAbsolute_eq split nonempty]
  have toTemporary {last : Bool} {location : Location}
      (led : files.locate (temporaryPath path) last = .ok location) :
      files.Leads last directory [stem ++ "." ++ "tmp"] location := by
    obtain ⟨other, beside, -, leads⟩ :=
      Leads.parent wellFormed (start (temporaryPath path)) temporary.1 (renamed ▸ locate_leads led)
    rw [sameOrigin] at beside
    cases above.unique beside
    exact leads
  have named := toNew.named proper
  have temporaryNamed := (toTemporary saved.oldAt).named temporary
  exact ⟨names, name, _, directory, split, nonempty, above, toNew.single named, named,
    (toTemporary saved.oldAt).single temporaryNamed, temporaryNamed, toTemporary saved.storedAt⟩

/-- What is there after saving: what was moved, what was written, and what was there before. -/
theorem present (saved : Saved files after path content stored old new moved) {entry : Entry}
    (there : after.entry? location = some entry) :
    (location = new ∧ entry = moved) ∨
      (location = stored ∧ old ≠ stored ∧ entry = .file content) ∨
        (location ≠ stored ∧ files.entry? location = some entry) := by
  by_cases isNew : location = new
  · rw [isNew, saved.entry?_new] at there
    cases there
    exact .inl ⟨isNew, rfl⟩
  rw [saved.after_eq, entry?_put_other _ _ isNew] at there
  by_cases isOld : location = old
  · have below : old ≠ [] := by
      rintro rfl
      exact saved.old_not_directory rfl
    rw [isOld, entry?_erase_self _ below] at there
    cases there
  rw [entry?_erase_other _ isOld] at there
  by_cases isStored : location = stored
  · subst isStored
    rw [entry?_put_self _ _ saved.writable.below] at there
    cases there
    exact .inr (.inl ⟨rfl, Ne.symm isOld, rfl⟩)
  · rw [entry?_put_other _ _ isStored] at there
    exact .inr (.inr ⟨isStored, there⟩)

/-- The place of the saved file: the one of the cache file, or where the link in its place leads. -/
structure Holds (files after : FileSystem) (content : ByteArray) (new : Location) (moved : Entry)
    (place : Location) : Prop where
  redirected : Redirected files after place
  solid : files.entry? place ≠ some .directory
  file : moved = .file content → place = new
  link : ∀ target, moved = .link target →
    files.Leads true (origin target new.dropLast) (rawNames target) place
  whole : ∀ held, after.entry? place = some (.file held) → held = content

theorem holds (saved : Saved files after path content stored old new moved)
    (wellFormed : files.WellFormed) : ∃ place, Holds files after content new moved place := by
  obtain ⟨names, name, temporary, directory, -, -, -, newAt, -, oldAt, temporaryNamed, toStored⟩ :=
    saved.beside wellFormed
  rcases saved.moved_cases with ⟨same, rfl⟩ | ⟨apart, found, target, rfl⟩
  · refine ⟨new, ?_, saved.free, fun _ => rfl, nofun, ?_⟩
    · intro location entry there
      rcases saved.present there with ⟨rfl, rfl⟩ | ⟨-, apart, -⟩ | ⟨-, before⟩
      · exact .inr (.inl ⟨rfl, content, rfl⟩)
      · exact absurd same apart
      · exact .inl before
    · intro held there
      rw [saved.entry?_new] at there
      cases there
      rfl
  · have onward : files.Leads true (origin target new.dropLast) (rawNames target) stored := by
      rw [oldAt] at found
      rw [Leads.entered temporaryNamed, found] at toStored
      rw [newAt, List.dropLast_concat]
      simpa using toStored
    refine ⟨stored, ?_, saved.writable.not_directory, nofun, ?_, ?_⟩
    · intro location entry there
      rcases saved.present there with ⟨rfl, rfl⟩ | ⟨rfl, -, rfl⟩ | ⟨-, before⟩
      · exact .inr (.inr ⟨target, rfl, onward⟩)
      · exact .inr (.inl ⟨rfl, content, rfl⟩)
      · exact .inl before
    · rintro other ⟨⟩
      exact onward
    · intro held there
      rcases saved.present there with ⟨-, isLink⟩ | ⟨-, -, written⟩ | ⟨apart, -⟩
      · cases isLink
      · cases written
        rfl
      · exact absurd rfl apart

private theorem read (saved : Saved files after path content stored old new moved)
    (wellFormed : files.WellFormed) (file : after.isFile path = true) :
    after.readBytes path = .ok content := by
  obtain ⟨location, held, found⟩ := isFile_iff.mp file
  obtain ⟨led, present⟩ := lookup_eq_ok_iff.mp found
  have afterFormed := saved.wellFormed wellFormed
  obtain ⟨names, name, -, directory, split, nonempty, above, newAt, named, -⟩ :=
    saved.beside wellFormed
  obtain ⟨place, holds⟩ := saved.holds wellFormed
  -- The way to the cache file comes to the directory that it came to before.
  have start := origin_directory path wellFormed.working
  have leads := locate_leads led
  rw [saved.working, split] at leads
  obtain ⟨parent, through, isDirectory, leads⟩ :=
    Leads.parent afterFormed (origin_directory path (saved.working ▸ afterFormed.working)) nonempty
      leads
  have same : parent = directory := by
    have before := holds.redirected.directory isDirectory
    rcases holds.redirected.leads_before wellFormed holds.solid start through with back | rfl | absent
    · exact above.unique back
    · exact absurd before holds.solid
    · rw [absent] at isDirectory
      cases isDirectory
  subst same
  have moves := saved.entry?_new
  rw [newAt] at moves
  rw [Leads.entered named, moves] at leads
  have atPlace : location = place := by
    rcases saved.moved_cases with ⟨-, rfl⟩ | ⟨-, found, target, rfl⟩
    · rw [holds.file rfl, newAt]
      exact leads.2
    · have onward := holds.link target rfl
      rw [newAt, List.dropLast_concat] at onward
      have before := origin_directory target (holds.redirected.directory isDirectory)
      have still : after.Leads true (origin target parent) (rawNames target ++ []) location := by
        simpa using leads
      rcases holds.redirected.leads_still wellFormed holds.solid before onward still with same | absent
      · exact same
      · rw [absent] at present
        cases present
  subst atPlace
  cases holds.whole held present
  exact readBytes_eq_ok_iff.mpr ⟨location, found⟩

end Saved

/-- What was saved is loaded. -/
theorem save_load (wellFormed : files.WellFormed) (sorted : cache.Sorted)
    (saved : cache.save files path = (.ok (), after)) (file : after.isFile path = true) :
    load after path = cache := by
  obtain ⟨stored, old, new, moved, saved⟩ := save_ok wellFormed saved
  rw [load, saved.read (ready_wellFormed wellFormed path) file]
  have read : ofBytes? cache.toJson.pretty.toUTF8 = some cache := ofJson?_toJson sorted
  simp only [read, Option.getD_some]

end ChangeCache

end TextScenario
