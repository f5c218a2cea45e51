import TextScenario.Proofs.ChangeMarks
import TextScenario.Proofs.FileMoves
import TextScenario.Proofs.ParentPaths

/-! Forgetting files that were removed. A removed file has the key of its name in its directory. That was
its key before exactly if it was no link, or one text stands for the paths of the link and of its file, and
then its entry is dropped. -/

namespace TextScenario

open FileSystem

namespace ChangeCache

variable {cache : ChangeCache} {files after : FileSystem} {path : String}

private theorem erase_insert (cache : ChangeCache) (key digest : String) :
    (cache.insert key digest).erase key = cache.erase key := by
  rw [insert, erase, erase, mk.injEq]
  induction cache.files with
  | nil => simp [Json.insertField]
  | cons field rest ih =>
    rw [Json.insertField]
    split
    · simp
    split
    next same => simp [same]
    next => rw [List.filter_cons, List.filter_cons, ih]

private theorem Saved.properLinks {content : ByteArray} {stored old new : Location} {moved : Entry}
    (saved : Saved files after path content stored old new moved) (proper : files.ProperLinks) :
    after.ProperLinks := by
  intro location target linked
  rcases saved.present linked with ⟨rfl, rfl⟩ | ⟨-, -, same⟩ | ⟨-, before⟩
  · rcases saved.moved_cases with ⟨-, same⟩ | ⟨-, found, -⟩
    · cases same
    · exact proper old target found
  · cases same
  · exact proper location target before

end ChangeCache

namespace FileSystem

variable {files other gone : FileSystem} {path name : String} {names : List String}
  {location directory : Location} {entry : Entry}

/-- Whether a path leads to a link, if that is not followed. -/
def IsLink (files : FileSystem) (path : String) : Prop :=
  ∃ location target, files.locate path false = .ok location ∧ files.entry? location = some (.link target)

/-- Whether one text stands for the path of a link and for the path of what it leads to. -/
def KeyedAlike (files : FileSystem) (path : String) : Prop :=
  ∃ place location, files.locate path false = .ok place ∧ files.locate path = .ok location ∧
    place ≠ location ∧ files.shown (absolutePath place) = files.shown (absolutePath location)

private theorem Grown.locate {last : Bool} (grown : Grown files other)
    (led : files.locate path last = .ok location) (found : files.entry? location = some entry) :
    other.locate path last = .ok location := by
  rcases locate_parting files other grown.working path last with same | ⟨place, -, parting⟩
  · rw [same, led]
  · obtain ⟨there, before⟩ := Option.ne_none_iff_exists'.mp (parting.present led (by simp [found]))
    exact absurd (by rw [outline?, outline?, before, grown.present before]) parting.differ

private theorem locate_unfollowed (led : files.locate path = .ok location)
    (found : files.entry? location = some entry) :
    ∃ place other, files.locate path false = .ok place ∧ files.entry? place = some other := by
  rcases locate_last files path with same | ⟨place, target, leads, linked⟩
  · exact ⟨location, entry, same ▸ led, found⟩
  · exact ⟨place, _, leads, linked⟩

private theorem absolutePath_concat {location : Location} (plain : ∀ name ∈ location, Plain name)
    (own : Plain name) : FilePath.join (absolutePath location) name = absolutePath (location ++ [name]) := by
  have relative : FilePath.isAbsolute name = false := FilePath.isAbsolute_plain own.2
  have added : absolutePath (location ++ [name]) =
      (location.foldl (fun path name => path ++ "/" ++ name) "") ++ "/" ++ name := by
    rw [absolutePath, if_neg (by simp), List.foldl_append]
    rfl
  rcases location.eq_nil_or_concat' with rfl | ⟨front, last, rfl⟩
  · rw [FilePath.join, if_neg (by simp [relative, absolutePath]), if_pos (by decide), added]
    rfl
  · have text : absolutePath (front ++ [last]) =
        (front ++ [last]).foldl (fun path name => path ++ "/" ++ name) "" := by
      rw [absolutePath, if_neg (by simp)]
    have ended : (absolutePath (front ++ [last])).toList.getLast? ≠ some '/' := by
      obtain ⟨nonempty, noSlash⟩ := plain last (by simp)
      rw [text, List.foldl_append, List.foldl_cons, List.foldl_nil, String.toList_append,
        List.getLast?_append_of_ne_nil _ (by simpa using nonempty)]
      intro last
      exact noSlash (List.mem_of_getLast? last)
    have nonempty : absolutePath (front ++ [last]) ≠ "" := by
      rw [text, List.foldl_append]
      simp
    rw [FilePath.join, if_neg (by simp [relative, nonempty]), if_neg ended, added, text]

/-- The key of a file that was removed: its name in the directory that it was in. -/
theorem removed_key (wellFormed : files.WellFormed) (proper : files.ProperLinks)
    (split : rawNames path = names ++ [name]) (named : Names name) (plain : '\x00' ∉ path.toList)
    {used : Nat} (within : used ≤ greatestLinks)
    (leads : files.LeadsBy true used (origin path files.working) names directory)
    (inside : files.entry? directory = some .directory)
    (solid : files.entry? (directory ++ [name]) ≠ some .directory)
    (blind : files.Blind (directory ++ [name])) (removed : gone = files.erase (directory ++ [name])) :
    gone.exists? path = false ∧ gone.resolved path = absolutePath (directory ++ [name]) := by
  have formed : gone.WellFormed := removed ▸ wellFormed.erase solid
  have kept : gone.LeadsBy true used (origin path gone.working) names directory :=
    removed ▸ leads.erase solid blind inside
  have still : gone.entry? directory = some .directory := removed ▸ entry?_erase_directory solid inside
  have absent : gone.entry? (directory ++ [name]) = none := removed ▸ entry?_erase_self _ (by simp)
  have unfound (location : Location) (entry : Entry) : gone.lookup path ≠ .ok (location, entry) := by
    intro found
    obtain ⟨led, present⟩ := lookup_eq_ok_iff.mp found
    have leads := locate_from formed split named.1.1 kept.leads led
    rw [Leads.entered named, absent] at leads
    rw [leads.2, absent] at present
    cases present
  constructor
  · apply Bool.eq_false_iff.mpr
    intro present
    obtain ⟨location, entry, found⟩ := exists?_iff.mp present
    exact unfound location entry found
  · have above : gone.canonical (parentOrHere path) = .ok (absolutePath directory) := by
      have led := (parentOrHere_above split named.1).locate (removed ▸ proper.erase (by simp)) plain
        within kept still
      rw [canonical, lookup_eq_ok_iff.mpr ⟨led, still⟩]
      rfl
    have own : Plain name := ⟨named.1.1, rawNames_plain path name (by simp [split])⟩
    rw [resolved]
    split
    next key found =>
      rw [canonical] at found
      cases looked : gone.lookup path with
      | error failure => simp [looked, Except.map] at found
      | ok present => exact absurd looked (unfound present.1 present.2)
    next =>
      rw [FilePath.fileName?_eq split named.1, above]
      exact absolutePath_concat (wellFormed.names inside) own

end FileSystem

namespace ChangeCache

variable {cache : ChangeCache} {files after gone : FileSystem} {path file : String}

private theorem removed_after_save (wellFormed : files.WellFormed) (proper : files.ProperLinks)
    (done : cache.save files path = (.ok (), after)) {location place : Location} {content : FileContent}
    {entry : Entry} (found : files.lookup file = .ok (location, .file content))
    (unfollowed : files.locate file false = .ok place) (present : files.entry? place = some entry)
    (removed : after.remove file = .ok gone) :
    gone.exists? file = false ∧ gone.cacheKey file = files.shown (absolutePath place) := by
  have grown := ready_grown files path
  have formed := ready_wellFormed wellFormed path
  obtain ⟨stored, old, new, moved, saved⟩ := save_ok wellFormed done
  obtain ⟨redirectedTo, holds⟩ := saved.holds formed
  have found := grown.lookup found
  have afterProper := saved.properLinks (grown.properLinks proper)
  obtain ⟨led, there⟩ := lookup_eq_ok_iff.mp found
  obtain ⟨names, name, split⟩ :=
    (rawNames file).eq_nil_or_concat'.resolve_left (by simp [rawNames, Text.splitAt_ne_nil])
  have properName := proper_of_file formed split found
  have afterFormed := saved.wellFormed formed
  have start := origin_directory file formed.working
  obtain ⟨directory, above, inside, leads⟩ :=
    Leads.parent formed start properName.1 (split ▸ locate_leads (grown.locate unfollowed present))
  have named := leads.named properName
  cases leads.single named
  obtain ⟨removedAt, leadsTo, -, solid, erased⟩ := remove_ok removed
  obtain ⟨-, plain, used, within, counted⟩ := (locate_eq_ok_iff afterProper).mp leadsTo
  rw [split, saved.working] at counted
  obtain ⟨first, second, parent, rfl, through, isDirectory, onward⟩ :=
    counted.parent afterFormed (origin_directory file (saved.working ▸ afterFormed.working)) properName.1
  -- The way to the file comes to the directory that it came to before.
  have same : parent = directory := by
    have before := holds.redirected.directory isDirectory
    rcases holds.redirected.leads_before formed holds.solid start through.leads with back | rfl | absent
    · exact above.unique back
    · exact absurd before holds.solid
    · rw [absent] at isDirectory
      cases isDirectory
  subst same
  cases onward.leads.single named
  have blind := holds.redirected.blind formed holds.solid inside
    (.of_leads formed inside named (locate_from formed split properName.1 above led) (by simp [there]))
  obtain ⟨absent, key⟩ := removed_key afterFormed afterProper split named plain (by omega)
    (saved.working ▸ through) isDirectory solid blind erased
  have shown : gone.shown = files.shown := by
    rw [erased]
    exact saved.shown.trans grown.shown
  exact ⟨absent, by rw [cacheKey, key, shown]⟩

end ChangeCache

namespace ChangeDetector

variable {detector marked final : ChangeDetector} {files after gone last : FileSystem} {file : String}

private theorem mark_one_present {location : Location} {entry : Entry}
    (found : files.lookup file = .ok (location, entry))
    (done : detector.mark files [file] = (.ok (), marked, after)) :
    (∃ digest, marked.cache = detector.cache.insert (files.shown (absolutePath location)) digest) ∧
      marked.cache.save files detector.cachePath = (.ok (), after) := by
  obtain ⟨-, noted, saved⟩ := mark_ok done
  rw [note, if_pos (exists?_iff.mpr ⟨_, _, found⟩), cacheKey_of_lookup found] at noted
  refine ⟨?_, saved⟩
  cases read : files.digest file with
  | error failure =>
    rw [read] at noted
    cases noted
  | ok digest =>
    rw [read] at noted
    exact ⟨digest, (congrArg Prod.snd noted).symm⟩

private theorem mark_one_gone (absent : files.exists? file = false)
    (done : detector.mark files [file] = (.ok (), marked, after)) :
    marked.cache = detector.cache.erase (files.cacheKey file) := by
  obtain ⟨-, noted, -⟩ := mark_ok done
  rw [note, if_neg (by simp [absent])] at noted
  exact (congrArg Prod.snd noted).symm

/-- A file is forgotten after it was marked and removed exactly if it was no link, or a link that is known
by the same text as its file. -/
theorem mark_forgets_iff (wellFormed : files.WellFormed) (proper : files.ProperLinks)
    (isFile : files.isFile file = true) (done : detector.mark files [file] = (.ok (), marked, after))
    (removed : after.remove file = .ok gone)
    (again : marked.mark gone [file] = (.ok (), final, last)) :
    final.cache = detector.cache.erase (files.cacheKey file) ↔
      ¬ files.IsLink file ∨ files.KeyedAlike file := by
  obtain ⟨location, content, found⟩ := isFile_iff.mp isFile
  obtain ⟨led, there⟩ := lookup_eq_ok_iff.mp found
  obtain ⟨⟨digest, inserted⟩, saved⟩ := mark_one_present found done
  obtain ⟨place, entry, unfollowed, present⟩ := locate_unfollowed led there
  obtain ⟨absent, key⟩ := ChangeCache.removed_after_save wellFormed proper saved found unfollowed present removed
  rw [mark_one_gone absent again, key, inserted, cacheKey_of_lookup found]
  by_cases same : place = location
  · subst same
    refine iff_of_true (ChangeCache.erase_insert ..) (.inl ?_)
    rintro ⟨other, target, leads, linked⟩
    cases unfollowed.symm.trans leads
    rw [there] at linked
    cases linked
  have isLink : files.IsLink file := by
    rcases locate_last files file with followed | ⟨other, target, leads, linked⟩
    · rw [led, unfollowed] at followed
      cases followed
      exact absurd rfl same
    · exact ⟨other, target, leads, linked⟩
  by_cases alike : files.shown (absolutePath place) = files.shown (absolutePath location)
  · rw [alike]
    exact iff_of_true (ChangeCache.erase_insert ..) (.inr ⟨place, location, unfollowed, led, same, alike⟩)
  · refine iff_of_false ?_ ?_
    · intro equal
      have entry := congrArg (·.get? (files.shown (absolutePath location))) equal
      simp [ChangeCache.get?_erase, ChangeCache.get?_insert, Ne.symm alike] at entry
    · rintro (unlinked | ⟨other, goal, leads, leadsTo, -, told⟩)
      · exact unlinked isLink
      · cases unfollowed.symm.trans leads
        cases led.symm.trans leadsTo
        exact alike told

/-- A scenario file, a link to its directory, and a link to itself. -/
def scenarioWithLinks : FileSystem :=
  { entries := [(["s"], .directory), (["s", "a.txt"], .file (ByteArray.mk #[1])), (["l"], .link "s"),
      (["s", "b.txt"], .link "a.txt")] }

def markedOnce (file : String) : Except FileFailure Unit × ChangeDetector × FileSystem :=
  firstDetector.mark scenarioWithLinks [file]

def afterRemoval (file : String) : Except FileError FileSystem :=
  (markedOnce file).2.2.remove file

def markedTwice (file : String) : Except FileFailure Unit × ChangeDetector × FileSystem :=
  (markedOnce file).2.1.mark ((afterRemoval file).toOption.getD {}) [file]

private theorem scenarioWithLinks_wellFormed : scenarioWithLinks.WellFormed where
  once := by decide
  named := by decide
  rooted entry member := hasParent_iff.mp (by revert entry; decide)
  working := rfl

private theorem scenarioWithLinks_properLinks : scenarioWithLinks.ProperLinks := by
  refine .of_entries fun entry member target linked => ?_
  simp only [scenarioWithLinks, List.mem_cons, List.not_mem_nil, or_false] at member
  rcases member with rfl | rfl | rfl | rfl <;> cases linked <;> decide

/-- A file that was marked by way of a link to its directory. -/
theorem mark_forgets_through_link :
    (markedTwice "l/a.txt").2.1.cache =
        firstDetector.cache.erase (scenarioWithLinks.cacheKey "l/a.txt") ↔
      ¬ scenarioWithLinks.IsLink "l/a.txt" ∨ scenarioWithLinks.KeyedAlike "l/a.txt" := by
  have done : markedOnce "l/a.txt" = (.ok (), (markedOnce "l/a.txt").2.1, (markedOnce "l/a.txt").2.2) :=
    Prod.ext (by decide +kernel) rfl
  have again : markedTwice "l/a.txt" =
      (.ok (), (markedTwice "l/a.txt").2.1, (markedTwice "l/a.txt").2.2) :=
    Prod.ext (by decide +kernel) rfl
  have succeeds : (afterRemoval "l/a.txt").isOk = true := by decide +kernel
  have removed : (markedOnce "l/a.txt").2.2.remove "l/a.txt" =
      .ok ((afterRemoval "l/a.txt").toOption.getD {}) := by
    rw [afterRemoval] at succeeds ⊢
    cases result : (markedOnce "l/a.txt").2.2.remove "l/a.txt" with
    | ok gone => rfl
    | error error =>
      rw [result] at succeeds
      cases succeeds
  exact mark_forgets_iff scenarioWithLinks_wellFormed scenarioWithLinks_properLinks (by decide +kernel) done
    removed again

/-- A link that was marked and removed leaves the entry of the file that it led to. -/
theorem mark_remembers_link :
    (markedOnce "s/b.txt").1 = .ok () ∧ (afterRemoval "s/b.txt").isOk = true ∧
      (markedTwice "s/b.txt").1 = .ok () ∧ firstDetector.cache = {} ∧
      (markedTwice "s/b.txt").2.1.cache ≠ {} := by
  decide +kernel

end ChangeDetector

end TextScenario
