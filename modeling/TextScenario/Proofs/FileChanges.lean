import TextScenario.FileSystem.Operation
import TextScenario.Proofs.CacheEntries
import TextScenario.Proofs.FileLeads

/-! What changes to files leave alone. Creating directories disturbs no path that led to something;
writing a file and renaming one change what is at a few locations, and nothing else. -/

namespace TextScenario

namespace FileSystem

/-- Directories were created where nothing was. -/
structure Grown (files other : FileSystem) : Prop where
  working : other.working = files.working
  lossy : other.lossy = files.lossy
  cutShort : other.cutShort = files.cutShort
  entry : ∀ location, other.entry? location = files.entry? location ∨
    files.entry? location = none ∧ other.entry? location = some .directory

namespace Grown

theorem refl (files : FileSystem) : Grown files files :=
  ⟨rfl, rfl, rfl, fun _ => .inl rfl⟩

theorem trans {files middle other : FileSystem} (first : Grown files middle)
    (second : Grown middle other) : Grown files other := by
  refine ⟨second.working.trans first.working, second.lossy.trans first.lossy,
    second.cutShort.trans first.cutShort, ?_⟩
  intro location
  rcases second.entry location with same | ⟨absent, created⟩
  · rw [same]
    exact first.entry location
  · rcases first.entry location with same | ⟨absent, -⟩
    · exact .inr ⟨same ▸ absent, created⟩
    · exact .inr ⟨absent, created⟩

variable {files other : FileSystem} {path : String} {location : Location} {entry : Entry}

theorem shown (grown : Grown files other) : other.shown = files.shown := by
  funext path
  rw [FileSystem.shown, FileSystem.shown, grown.lossy]

theorem present (grown : Grown files other) (found : files.entry? location = some entry) :
    other.entry? location = some entry := by
  rcases grown.entry location with same | ⟨absent, -⟩
  · rw [same, found]
  · rw [found] at absent
    cases absent

theorem unlinked (grown : Grown files other)
    (unlinked : ∀ target, files.entry? location ≠ some (.link target)) :
    ∀ target, other.entry? location ≠ some (.link target) := by
  intro target
  rcases grown.entry location with same | ⟨-, created⟩
  · rw [same]
    exact unlinked target
  · simp [created]

theorem properLinks (grown : Grown files other) (proper : files.ProperLinks) : other.ProperLinks := by
  intro location target linked
  rcases grown.entry location with same | ⟨-, created⟩
  · exact proper location target (same ▸ linked)
  · rw [created] at linked
    cases linked

theorem lookup (grown : Grown files other) (found : files.lookup path = .ok (location, entry)) :
    other.lookup path = .ok (location, entry) :=
  lookup_kept grown.working (fun _ _ _ => grown.present) found

theorem locate_unique (grown : Grown files other) {last : Bool} {place : Location}
    (led : files.locate path last = .ok location) (leads : other.locate path last = .ok place) :
    place = location := by
  rcases locate_parting files other grown.working path last with same | ⟨parted, -, parting⟩
  · rw [same, led] at leads
    cases leads
    rfl
  · rcases grown.entry parted with same | ⟨absent, created⟩
    · exact absurd (by rw [outline?, outline?, same]) parting.differ
    · exact parting.created absent created led leads

end Grown

variable {files other : FileSystem} {path : String} {location : Location} {entry : Entry}

private theorem createDirectory_ok (created : files.createDirectory path = .ok other) :
    ∃ location, files.locate path false = .ok location ∧ files.entry? location = none ∧
      files.entry? location.dropLast = some .directory ∧ other = files.put location .directory := by
  obtain ⟨location, led, created⟩ := Except.bind_ok created
  refine ⟨location, led, ?_⟩
  split at created
  · cases created
  next absent =>
    split at created
    next inside =>
      cases created
      exact ⟨absent, hasParent_iff.mp inside, rfl⟩
    next => cases created

private theorem createDirectory_grown (created : files.createDirectory path = .ok other) :
    Grown files other := by
  obtain ⟨location, -, absent, -, rfl⟩ := createDirectory_ok created
  refine ⟨rfl, rfl, rfl, ?_⟩
  intro place
  by_cases same : place = location
  · subst same
    refine .inr ⟨absent, entry?_put_self files _ ?_⟩
    rintro rfl
    cases absent
  · exact .inl (entry?_put_other files _ same)

private theorem createDirectory_wellFormed (wellFormed : files.WellFormed)
    (created : files.createDirectory path = .ok other) : other.WellFormed := by
  obtain ⟨location, led, absent, inside, rfl⟩ := createDirectory_ok created
  exact wellFormed.put _ inside (locate_reached wellFormed led).plain (by simp [absent])

private theorem createBelow_keeps (keeps : FileSystem → Prop)
    (step : ∀ {files other : FileSystem} {path : String}, keeps files →
      files.createDirectory path = .ok other → keeps other)
    (fuel : Nat) (files : FileSystem) (path : String) (start : keeps files) :
    keeps (files.createBelow fuel path).2 := by
  induction fuel generalizing files path with
  | zero =>
    unfold createBelow
    split
    · exact start
    cases made : files.createDirectory path with
    | ok other => exact step start made
    | error failure => cases failure <;> exact start
  | succ fuel ih =>
    unfold createBelow
    split
    · exact start
    cases made : files.createDirectory path with
    | ok other => exact step start made
    | error failure =>
      cases failure with
      | notFound =>
        cases FilePath.parent? path with
        | none => exact start
        | some parent =>
          have above := ih files parent start
          dsimp only
          generalize files.createBelow fuel parent = result at above
          obtain ⟨outcome, between⟩ := result
          cases outcome with
          | error failure => exact above
          | ok =>
            dsimp only
            cases last : between.createDirectory path with
            | ok other => exact step above last
            | error failure => exact above
      | _ => exact start

theorem createDirectories_grown (files : FileSystem) (path : String) :
    Grown files (files.createDirectories path).2 :=
  createBelow_keeps (Grown files)
    (fun grown made => grown.trans (createDirectory_grown made)) _ files path (.refl files)

theorem createDirectories_wellFormed (wellFormed : files.WellFormed) (path : String) :
    (files.createDirectories path).2.WellFormed :=
  createBelow_keeps WellFormed createDirectory_wellFormed _ files path wellFormed

/-- A file can be put here: there is one, or nothing, in a directory. -/
structure Writable (files : FileSystem) (location : Location) : Prop where
  free : files.entry? location = none ∨ ∃ content, files.entry? location = some (.file content)
  inside : files.entry? location.dropLast = some .directory
  plain : ∀ name ∈ location, Plain name

namespace Writable

theorem below (writable : Writable files location) : location ≠ [] := by
  rintro rfl
  rcases writable.free with absent | ⟨content, found⟩
  · cases absent
  · cases found

theorem not_directory (writable : Writable files location) :
    files.entry? location ≠ some .directory := by
  rcases writable.free with absent | ⟨content, found⟩
  · simp [absent]
  · simp [found]

theorem put (writable : Writable files location) (wellFormed : files.WellFormed) (entry : Entry) :
    (files.put location entry).WellFormed :=
  wellFormed.put entry writable.inside writable.plain writable.not_directory

end Writable

theorem ProperLinks.put (proper : files.ProperLinks) (writable : Writable files location)
    (content : FileContent) : (files.put location (.file content)).ProperLinks := by
  intro place target linked
  by_cases same : place = location
  · rw [same, entry?_put_self _ _ writable.below] at linked
    cases linked
  · rw [entry?_put_other _ _ same] at linked
    exact proper place target linked

theorem writeBytes_ok (wellFormed : files.WellFormed) {content : ByteArray}
    (written : files.writeBytes path content = .ok other) :
    ∃ location, files.locate path = .ok location ∧ Writable files location ∧
      other = files.put location (.file content) := by
  obtain ⟨location, led, written⟩ := Except.bind_ok written
  have reached := locate_reached wellFormed led
  refine ⟨location, led, ?_⟩
  split at written
  next => cases written
  next old found =>
    cases opened : old.open with
    | error error =>
      rw [opened] at written
      cases written
    | ok bytes =>
      rw [opened] at written
      cases written
      exact ⟨⟨.inr ⟨_, found⟩, wellFormed.parent found, reached.plain⟩, rfl⟩
  next noDirectory noFile =>
    have absent : files.entry? location = none := by
      cases found : files.entry? location with
      | none => rfl
      | some entry =>
        cases entry with
        | directory => exact absurd found noDirectory
        | file content => exact absurd found (noFile content)
        | link target => exact absurd found (reached.unlinked rfl target)
    split at written
    · cases written
    split at written
    next inside =>
      cases written
      exact ⟨⟨.inl absent, hasParent_iff.mp inside, reached.plain⟩, rfl⟩
    next => cases written

private theorem Parting.at_file {last : Bool} {place : Location} {content : FileContent}
    {result otherResult : Except FileError Location}
    (parting : Parting files other last place result otherResult)
    (present : other.entry? place = some (.file content)) (led : otherResult = .ok location) :
    location = place ∧ (files.entry? place = none → result = .ok place) := by
  obtain ⟨fuel, links, at_, name, rest, rfl, -⟩ := parting
  simp only [enter, present] at led
  split at led
  next last =>
    cases led
    refine ⟨rfl, ?_⟩
    intro absent
    simp only [enter, absent, List.isEmpty_iff.mp last, List.all_nil, if_true]
  next => cases led

theorem locate_write (writable : Writable files location) {content : FileContent} {last : Bool}
    {place : Location} (led : (files.put location (.file content)).locate path last = .ok place) :
    files.locate path last = .ok place := by
  rcases locate_parting files (files.put location (.file content)) rfl path last with
    same | ⟨other, -, parting⟩
  · rw [← same, led]
  · have moved : other = location := by
      apply Classical.byContradiction
      intro different
      exact parting.differ (by rw [outline?, outline?, entry?_put_other files _ different])
    subst moved
    have present := entry?_put_self files (.file content) writable.below
    obtain ⟨rfl, before⟩ := parting.at_file present led
    rcases writable.free with absent | ⟨old, found⟩
    · exact before absent
    · exact absurd (by rw [outline?, outline?, present, found]; rfl) parting.differ

theorem locate_put (writable : Writable files location) (content : FileContent) {last : Bool}
    {place : Location} (led : files.locate path last = .ok place)
    (there : files.entry? place ≠ none) :
    (files.put location (.file content)).locate path last = .ok place := by
  rcases locate_parting files (files.put location (.file content)) rfl path last with
    same | ⟨parted, -, parting⟩
  · rw [same, led]
  · -- A way that ends at an entry has seen no free place.
    refine absurd ?_ parting.differ
    by_cases here : parted = location
    · subst here
      rcases writable.free with absent | ⟨old, found⟩
      · exact absurd absent (parting.present led there)
      · rw [outline?, outline?, entry?_put_self _ _ writable.below, found]
        rfl
    · rw [outline?, outline?, entry?_put_other _ _ here]

theorem put_put (files : FileSystem) (location : Location) (first second : Entry) :
    (files.put location first).put location second = files.put location second := by
  simp [FileSystem.put, List.filter_filter]

theorem writeBytes_cleared (wellFormed : files.WellFormed) (led : files.locate path = .ok location)
    (writable : Writable files location) {content : ByteArray}
    (write : (files.put location (.file ByteArray.empty)).writeBytes path content = .ok other) :
    (files.put location (.file ByteArray.empty)).locate path = .ok location ∧
      other = files.put location (.file content) := by
  obtain ⟨again, leads, -, rfl⟩ := writeBytes_ok (writable.put wellFormed _) write
  cases led.symm.trans (locate_write writable leads)
  exact ⟨leads, put_put ..⟩

theorem rewrite_ok (wellFormed : files.WellFormed) {cleared : FileSystem} {content : ByteArray}
    (clear : files.writeBytes path .empty = .ok cleared)
    (write : cleared.writeBytes path content = .ok other) :
    ∃ location, files.locate path = .ok location ∧ Writable files location ∧
      other = files.put location (.file content) := by
  obtain ⟨location, led, writable, rfl⟩ := writeBytes_ok wellFormed clear
  exact ⟨location, led, writable, (writeBytes_cleared wellFormed led writable write).2⟩

theorem fill_ok {content : ByteArray} (filled : files.fill path content = (.ok (), other)) :
    files.writeBytes path content = .ok other := by
  rw [fill] at filled
  split at filled
  · cases filled
  · split at filled
    next written =>
      cases filled
      exact written
    next => cases filled

/-- A write that fails is cut short, and may have written a part, or the file cannot be opened. -/
theorem fill_error {content : ByteArray} {error : FileError}
    (failed : files.fill path content = (.error error, other)) :
    (∃ count message, files.cutShort = some (count, message) ∧
        (other = files ∨ files.writeBytes path (content.extract 0 count) = .ok other)) ∨
      other = files ∧ files.writeBytes path content = .error error := by
  rw [fill] at failed
  split at failed
  next count message short =>
    cases failed
    refine .inl ⟨count, message, short, ?_⟩
    cases written : files.writeBytes path (content.extract 0 count) with
    | error => exact .inl rfl
    | ok part => exact .inr rfl
  next =>
    split at failed
    · cases failed
    next unwritten =>
      cases failed
      exact .inr ⟨rfl, unwritten⟩

theorem overwrite_ok {old : ByteArray} (found : files.lookup path = .ok (location, .file old))
    (content : ByteArray) : files.writeBytes path content = .ok (files.put location (.file content)) := by
  obtain ⟨led, there⟩ := lookup_eq_ok_iff.mp found
  rw [writeBytes, led]
  simp only [bind, Except.bind, there]
  rfl

section Overwrite

variable {old : FileContent} (there : files.entry? location = some (.file old)) (content : FileContent)
include there

private theorem overwrite_at : entry? (files.put location (.file content)) location = some (.file content) := by
  apply entry?_put_self
  rintro rfl
  cases there

theorem overwrite_locate (path : String) (last : Bool) :
    (files.put location (.file content)).locate path last = files.locate path last := by
  rcases locate_parting files (files.put location (.file content)) rfl path last with
    same | ⟨other, -, parting⟩
  · exact same
  · refine absurd ?_ parting.differ
    by_cases moved : other = location
    · subst moved
      rw [outline?, outline?, there, overwrite_at there]
      rfl
    · rw [outline?, outline?, entry?_put_other files _ moved]

/-- What paths lead to is what it was, but for the content of the file. -/
theorem overwrite_lookup (path : String) :
    (files.put location (.file content)).lookup path =
      (files.lookup path).map fun (place, entry) =>
        (place, if place = location then .file content else entry) := by
  rw [lookup, lookup, overwrite_locate there]
  cases led : files.locate path with
  | error failure => rfl
  | ok place =>
    simp only [bind, Except.bind]
    by_cases same : place = location
    · subst same
      rw [overwrite_at there, there]
      simp [Except.map]
    · rw [entry?_put_other _ _ same]
      cases files.entry? place with
      | none => rfl
      | some entry => simp [Except.map, same]

theorem overwrite_canonical (path : String) :
    (files.put location (.file content)).canonical path = files.canonical path := by
  rw [canonical, canonical, overwrite_lookup there]
  cases files.lookup path <;> rfl

/-- A path leads to what it led to before, unless that is the file. -/
private theorem overwrite_cases (path : String) :
    (files.put location (.file content)).lookup path = files.lookup path ∨
      files.lookup path = .ok (location, .file old) ∧
        (files.put location (.file content)).lookup path = .ok (location, .file content) := by
  rw [overwrite_lookup there]
  cases looked : files.lookup path with
  | error failure => exact .inl rfl
  | ok found =>
    obtain ⟨place, entry⟩ := found
    by_cases same : place = location
    · obtain ⟨-, present⟩ := lookup_eq_ok_iff.mp looked
      rw [same, there] at present
      cases present
      exact .inr ⟨by rw [same], by simp [Except.map, same]⟩
    · exact .inl (by simp [Except.map, same])

theorem overwrite_isFile (path : String) :
    (files.put location (.file content)).isFile path = files.isFile path := by
  rcases overwrite_cases there content path with same | ⟨before, after⟩
  · rw [isFile, isFile, same]
  · rw [isFile, isFile, before, after]

theorem overwrite_directory (path : String) (place : Location) :
    (files.put location (.file content)).lookup path = .ok (place, .directory) ↔
      files.lookup path = .ok (place, .directory) := by
  rcases overwrite_cases there content path with same | ⟨before, after⟩
  · rw [same]
  · rw [before, after]
    simp

theorem overwrite_present (place : Location) :
    entry? (files.put location (.file content)) place ≠ none ↔ files.entry? place ≠ none := by
  by_cases same : place = location
  · rw [same, overwrite_at there, there]
    simp
  · rw [entry?_put_other _ _ same]

theorem overwrite_wellFormed (wellFormed : files.WellFormed) :
    (files.put location (.file content)).WellFormed :=
  wellFormed.put _ (wellFormed.parent there) (wellFormed.names there) (by simp [there])

end Overwrite

theorem visited_ne_nil {last : Bool} {fuel links : Nat} {at_ : Location} {names : List String}
    {name : String} (ended : names.getLast? = some name) (proper : FilePath.Proper name)
    (led : files.follow last fuel links at_ names = .ok location) :
    files.visited last fuel links at_ names ≠ [] := by
  induction fuel generalizing at_ names with
  | zero => cases led
  | succ fuel ih =>
    cases names with
    | nil => cases ended
    | cons first rest =>
      have later (skipped : ¬ FilePath.Proper first) : rest.getLast? = some name := by
        cases rest with
        | nil =>
          cases ended
          exact absurd proper skipped
        | cons => rwa [List.getLast?_cons_cons] at ended
      rcases name_cases first with here | rfl | ⟨proper, long⟩ | named
      · rw [follow_here here] at led
        rw [visited_here here]
        exact ih (later fun proper => by simp [proper.1, proper.2.1] at here) led
      · rw [follow_up] at led
        rw [visited_up]
        exact ih (later fun proper => proper.2.2 rfl) led
      · rw [follow_long proper long] at led
        cases led
      · rw [visited_name named]
        exact List.cons_ne_nil _ _

private theorem enter_last {fuel links : Nat} {at_ : Location} {name : String}
    (solid : files.entry? location ≠ some .directory)
    (led : files.enter false fuel links at_ name [] = .ok location) :
    at_ ++ [name] = location ∧ files.beyond false fuel links at_ name [] = [] := by
  cases found : files.entry? (at_ ++ [name]) with
  | none =>
    simp only [enter, found, List.all_nil, if_true, Except.ok.injEq] at led
    exact ⟨led, by simp only [beyond, found]⟩
  | some entry =>
    cases entry with
    | directory =>
      simp only [enter, found] at led
      cases fuel with
      | zero => cases led
      | succ fuel =>
        cases led
        exact absurd found solid
    | file content =>
      simp only [enter, found, List.isEmpty_nil, if_true, Except.ok.injEq] at led
      exact ⟨led, by simp only [beyond, found]⟩
    | link target =>
      simp only [enter, found, List.isEmpty_nil, Bool.not_false, Bool.and_self, if_true,
        Except.ok.injEq] at led
      exact ⟨led, by simp [beyond, found]⟩

/-- What becomes of a way to a location when a file comes there: it is kept, unless it passes a link in
this place. -/
def Replaced (files : FileSystem) (location : Location) (way : List Location)
    (result : Except FileError Location) : Prop :=
  (location ∉ way.dropLast ∧ result = .ok location) ∨
    location ∈ way.dropLast ∧ (∃ target, files.entry? location = some (.link target)) ∧
      result = .error .notDirectory

section Replaced

variable {name first : String} {content : FileContent}
  (proper : FilePath.Proper name) (solid : files.entry? location ≠ some .directory)
  (filled : other.entry? location = some (.file content))
  (kept : ∀ place entry, place ≠ location → files.entry? place = some entry →
    (∀ content, entry ≠ .file content) → other.entry? place = some entry)
include proper solid filled kept

/-- A name before the last one, if names that are shorter to follow lead to the file. -/
private theorem enter_replaced {fuel links : Nat} {at_ : Location} {rest : List String}
    (shorter : ∀ links at_ names, names.getLast? = some name →
      files.follow false fuel links at_ names = .ok location →
        Replaced files location (files.visited false fuel links at_ names)
          (other.follow false fuel links at_ names))
    (ended : rest.getLast? = some name)
    (led : files.enter false fuel links at_ first rest = .ok location) :
    Replaced files location ((at_ ++ [first]) :: files.beyond false fuel links at_ first rest)
      (other.enter false fuel links at_ first rest) := by
  have unblank : ¬ rest.all (· == "") = true := by
    intro blank
    have empty := List.all_eq_true.mp blank name (List.mem_of_getLast? ended)
    exact proper.1 (beq_iff_eq.mp empty)
  have unfinished : rest.isEmpty = false := by
    cases rest with
    | nil => cases ended
    | cons => rfl
  cases found : files.entry? (at_ ++ [first]) with
  | none =>
    simp only [enter, found, if_neg unblank] at led
    cases led
  | some entry =>
    cases entry with
    | directory =>
      have apart : at_ ++ [first] ≠ location := by
        rintro rfl
        exact solid found
      have stays := kept _ _ apart found (by simp)
      simp only [enter, found] at led
      have some := visited_ne_nil ended proper led
      simp only [Replaced, enter, stays, beyond, found, List.dropLast_cons_of_ne_nil some,
        List.mem_cons, Ne.symm apart, false_or]
      exact shorter _ _ _ ended led
    | file content => simp [enter, found, unfinished] at led
    | link target =>
      simp only [enter, found, unfinished, Bool.false_and, Bool.false_eq_true, if_false] at led
      cases links with
      | zero => cases led
      | succ links =>
        by_cases empty : target = ""
        · simp [empty] at led
        simp only [if_neg empty] at led
        have last : (rawNames target ++ rest).getLast? = some name := by
          rw [List.getLast?_append, ended, Option.some_or]
        have some := visited_ne_nil last proper led
        simp only [Replaced, beyond, found, unfinished, Bool.false_and, Bool.false_eq_true, if_false,
          if_neg empty, List.dropLast_cons_of_ne_nil some, List.mem_cons]
        by_cases passed : at_ ++ [first] = location
        · refine .inr ⟨.inl passed.symm, ⟨target, passed ▸ found⟩, ?_⟩
          simp [enter, passed, filled, unfinished]
        · have stays := kept _ _ passed found (by simp)
          simp only [enter, stays, unfinished, Bool.false_and, Bool.false_eq_true, if_false,
            if_neg empty, Ne.symm passed, false_or]
          exact shorter _ _ _ last led

private theorem follow_replaced {fuel links : Nat} {at_ : Location} {names : List String}
    (ended : names.getLast? = some name)
    (led : files.follow false fuel links at_ names = .ok location) :
    Replaced files location (files.visited false fuel links at_ names)
      (other.follow false fuel links at_ names) := by
  induction fuel generalizing links at_ names with
  | zero => cases led
  | succ fuel ih =>
    cases names with
    | nil => cases ended
    | cons first rest =>
      have later : rest = [] ∧ name = first ∨ rest.getLast? = some name := by
        cases rest with
        | nil =>
          cases ended
          exact .inl ⟨rfl, rfl⟩
        | cons => exact .inr (by rwa [List.getLast?_cons_cons] at ended)
      have onward (skipped : ¬ FilePath.Proper first) : rest.getLast? = some name := by
        rcases later with ⟨-, rfl⟩ | ended
        · exact absurd proper skipped
        · exact ended
      rcases name_cases first with here | rfl | ⟨proper, long⟩ | named
      · rw [follow_here here] at led ⊢
        rw [visited_here here]
        exact ih (onward fun proper => by simp [proper.1, proper.2.1] at here) led
      · rw [follow_up] at led ⊢
        rw [visited_up]
        exact ih (onward fun proper => proper.2.2 rfl) led
      · rw [follow_long proper long] at led
        cases led
      · rw [follow_name named] at led ⊢
        rw [visited_name named]
        rcases later with ⟨rfl, -⟩ | ended
        · obtain ⟨same, nothing⟩ := enter_last solid led
          exact .inl (by simp [enter, same, nothing, filled])
        · exact enter_replaced proper solid filled kept (fun _ _ _ => ih) ended led

end Replaced

theorem rawNames_getLast? {path : String} (nonempty : path ≠ "")
    (unended : path.toList.getLast? ≠ some '/') : (rawNames path).getLast? ≠ some "" := by
  intro last
  obtain ⟨first, rest, pieces⟩ :=
    List.exists_cons_of_ne_nil (Text.splitAt_ne_nil '/' path.toList)
  have whole := Text.splitAt_flatMap '/' path.toList pieces
  rw [rawNames, pieces, List.getLast?_map, Option.map_eq_some_iff] at last
  obtain ⟨piece, last, empty⟩ := last
  have empty : piece = [] := by simpa using empty
  subst empty
  obtain ⟨front, pieces⟩ := List.getLast?_eq_some_iff.mp last
  cases front with
  | nil =>
    cases pieces
    exact nonempty (by simpa using whole.symm)
  | cons other front =>
    cases pieces
    refine unended ?_
    rw [← whole]
    simp

/-- The locations that are passed on the way of a path, before the one that it ends at. -/
def passed (files : FileSystem) (path : String) : List Location :=
  (files.looked path false).dropLast

/-- A path leads to a file that came where it led, unless it passes a link in its place on the way. -/
theorem locate_replaced (working : other.working = files.working) {name : String}
    {content : FileContent} (ended : (rawNames path).getLast? = some name)
    (proper : FilePath.Proper name) (solid : files.entry? location ≠ some .directory)
    (filled : other.entry? location = some (.file content))
    (kept : ∀ place entry, place ≠ location → files.entry? place = some entry →
      (∀ content, entry ≠ .file content) → other.entry? place = some entry)
    (led : files.locate path false = .ok location) :
    (location ∉ files.passed path ∧ other.locate path false = .ok location) ∨
      location ∈ files.passed path ∧ (∃ target, files.entry? location = some (.link target)) ∧
        other.locate path false = .error .notDirectory := by
  simp only [locate, passed, looked, working] at led ⊢
  split at led
  · cases led
  next nonempty =>
  split at led
  · cases led
  next plain =>
  simp only [if_neg nonempty, if_neg plain]
  exact follow_replaced proper solid filled kept ended led

theorem rename_ok {source target : String} (renamed : files.rename source target = .ok other) :
    ∃ old new entry, files.locate source false = .ok old ∧ files.locate target false = .ok new ∧
      files.entry? old = some entry ∧ files.entry? new ≠ some .directory ∧
      files.entry? new.dropLast = some .directory ∧ target.toList.getLast? ≠ some '/' ∧
      other = (files.erase old).put new entry := by
  obtain ⟨old, from_, renamed⟩ := Except.bind_ok renamed
  obtain ⟨new, to_, renamed⟩ := Except.bind_ok renamed
  cases found : files.entry? old with
  | none =>
    rw [found] at renamed
    cases renamed
  | some entry =>
    rw [found] at renamed
    dsimp only at renamed
    split at renamed
    · cases renamed
    next unended =>
      have unended : ¬ (source.toList.getLast? == some '/' || target.toList.getLast? == some '/') =
        true := unended
      split at renamed
      · cases renamed
      next inside =>
        refine ⟨old, new, entry, from_, to_, found, ?_⟩
        have directory : files.entry? new.dropLast = some .directory :=
          hasParent_iff.mp (by simpa using inside)
        split at renamed
        next => cases renamed
        next free =>
          cases renamed
          refine ⟨free, directory, ?_, rfl⟩
          intro ended
          simp [ended] at unended

private theorem unended_of_file (wellFormed : files.WellFormed)
    (found : files.lookup path = .ok (location, .file content)) : path.toList.getLast? ≠ some '/' := by
  intro ended
  obtain ⟨led, file⟩ := lookup_eq_ok_iff.mp found
  obtain ⟨before, whole⟩ := List.getLast?_eq_some_iff.mp ended
  have blank : (rawNames path).getLast? = some "" := by
    rw [rawNames, whole, Text.splitAt_separated]
    simp [Text.splitAt]
  have proper := (locate_leads led).ends_properly wellFormed
    (origin_directory path wellFormed.working) file blank
  exact proper.1 rfl

/-- A file can be moved to wherever a path leads to a file. -/
theorem rename_files (wellFormed : files.WellFormed) {source target : String} {old new : Location}
    {moved held : FileContent} (from_ : files.lookup source = .ok (old, .file moved))
    (to_ : files.lookup target = .ok (new, .file held)) :
    ∃ renamed, files.rename source target = .ok renamed := by
  have unfollowed {path : String} {location : Location} {content : FileContent}
      (found : files.lookup path = .ok (location, .file content)) :
      ∃ place entry, files.locate path false = .ok place ∧ files.entry? place = some entry ∧
        entry ≠ .directory := by
    obtain ⟨led, there⟩ := lookup_eq_ok_iff.mp found
    rcases locate_last files path with same | ⟨place, target, leads, linked⟩
    · exact ⟨location, _, same ▸ led, there, nofun⟩
    · exact ⟨place, _, leads, linked, nofun⟩
  obtain ⟨place, entry, led, there, -⟩ := unfollowed from_
  obtain ⟨goal, replaced, leads, present, solid⟩ := unfollowed to_
  have inside : files.hasParent goal = true := hasParent_iff.mpr (wellFormed.parent present)
  have unended : ¬ (source.toList.getLast? == some '/' || target.toList.getLast? == some '/') =
      true := by
    simp [unended_of_file wellFormed from_, unended_of_file wellFormed to_]
  rw [rename, led, leads]
  simp only [bind, Except.bind, there, present, inside]
  split
  next ended => exact absurd ended unended
  next =>
    cases replaced with
    | directory => exact absurd rfl solid
    | file | link => exact ⟨_, rfl⟩

end FileSystem

namespace FileOperation

variable {files after : FileSystem} {operation : FileOperation} {rest : List FileOperation}

theorem changed_ok {result : Except FileError FileSystem}
    (done : changed files result = (.ok (), after)) : result = .ok after := by
  cases result with
  | error failure => cases done
  | ok other =>
    cases done
    rfl

theorem run_cons_ok (done : run files (operation :: rest) = (.ok (), after)) :
    ∃ between, operation.apply files = (.ok (), between) ∧ run between rest = (.ok (), after) := by
  rw [run] at done
  split at done
  next between applied => exact ⟨between, applied, done⟩
  next => cases done

end FileOperation

end TextScenario
