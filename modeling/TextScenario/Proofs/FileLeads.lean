import TextScenario.Proofs.FileLinks
import TextScenario.Proofs.FileNames

/-! Where names lead, whatever number of steps and links it takes. This is what two paths that share
their first names have in common, and what a link that was moved has in common with the link that it
was. -/

namespace TextScenario.FileSystem

variable {files other : FileSystem} {last : Bool} {at_ location place : Location} {name : String}
  {names rest : List String}

namespace Leads

/-- What becomes of a path at a name in a directory. -/
theorem entered (named : Names name) :
    files.Leads last at_ (name :: rest) location ↔
      match files.entry? (at_ ++ [name]) with
      | none => (∀ other ∈ rest, other = "") ∧ location = at_ ++ [name]
      | some .directory => files.Leads last (at_ ++ [name]) rest location
      | some (.file _) => rest = [] ∧ location = at_ ++ [name]
      | some (.link target) =>
        if last = true ∨ rest ≠ [] then
          files.Leads last (origin target at_) (rawNames target ++ rest) location
        else location = at_ ++ [name] := by
  constructor
  · intro leads
    cases leads with
    | here blank => exact absurd blank (by simp [named.1.1, named.1.2.1])
    | up => exact absurd rfl named.1.2.2
    | free _ absent blank => simpa [absent] using blank
    | down _ found onward => simpa [found] using onward
    | file _ found => simp [found]
    | stop _ found unfollowed => simp [found, unfollowed]
    | link _ found onto onward => simpa only [found, if_pos onto] using onward
  · intro entered
    split at entered
    next absent =>
      obtain ⟨blank, rfl⟩ := entered
      exact .free named absent blank
    next found => exact .down named found entered
    next found =>
      obtain ⟨rfl, rfl⟩ := entered
      exact .file named found
    next target found =>
      split at entered
      next onto => exact .link named found onto entered
      next stays =>
        obtain ⟨unfollowed, rfl⟩ : last = false ∧ rest = [] := by simpa using stays
        subst entered
        exact .stop named found unfollowed

theorem here_iff (blank : name = "" ∨ name = ".") :
    files.Leads last at_ (name :: rest) location ↔ files.Leads last at_ rest location := by
  refine ⟨?_, .here blank⟩
  intro leads
  cases leads with
  | here _ onward => exact onward
  | up => simp at blank
  | free named | down named | file named | stop named | link named =>
    exact absurd blank (by simp [named.1.1, named.1.2.1])

theorem up_iff :
    files.Leads last at_ (".." :: rest) location ↔ files.Leads last at_.dropLast rest location := by
  refine ⟨?_, .up⟩
  intro leads
  cases leads with
  | here blank => simp at blank
  | up onward => exact onward
  | free named | down named | file named | stop named | link named =>
    exact absurd rfl named.1.2.2

theorem unique (leads : files.Leads last at_ names location) (again : files.Leads last at_ names place) :
    place = location := by
  induction leads with
  | nil =>
    cases again
    rfl
  | here blank _ ih => exact ih ((here_iff blank).mp again)
  | up _ ih => exact ih (up_iff.mp again)
  | free named absent _ =>
    rw [entered named, absent] at again
    exact again.2
  | down named found _ ih =>
    rw [entered named, found] at again
    exact ih again
  | file named found =>
    rw [entered named, found] at again
    exact again.2
  | stop named found unfollowed =>
    rw [entered named, found] at again
    simpa [unfollowed] using again
  | link named found onto _ ih =>
    rw [entered named, found] at again
    exact ih (by simpa only [if_pos onto] using again)

/-- The last name is looked up in the directory that the names before it lead to. -/
theorem parent (wellFormed : files.WellFormed) (start : files.entry? at_ = some .directory)
    (nonempty : name ≠ "") (leads : files.Leads last at_ (names ++ [name]) location) :
    ∃ parent, files.Leads true at_ names parent ∧ files.entry? parent = some .directory ∧
      files.Leads last parent [name] location := by
  obtain ⟨used, counted⟩ := leads.counted
  obtain ⟨first, second, parent, -, above, directory, last⟩ := counted.parent wellFormed start nonempty
  exact ⟨parent, above.leads, directory, last.leads⟩

theorem named (leads : files.Leads last at_ (name :: rest) location) (proper : FilePath.Proper name) :
    Names name := by
  cases leads with
  | here blank => exact absurd blank (by simp [proper.1, proper.2.1])
  | up => exact absurd rfl proper.2.2
  | free named | down named | file named | stop named | link named => exact named

theorem ends_properly (wellFormed : files.WellFormed)
    (start : files.entry? at_ = some .directory) (leads : files.Leads last at_ names location)
    {content : FileContent} (file : files.entry? location = some (.file content)) (ended : names.getLast? = some name) :
    FilePath.Proper name := by
  have apart {place : Location} (directory : files.entry? place = some .directory) :
      place ≠ location := by
    rintro rfl
    rw [file] at directory
    cases directory
  have more {first : String} {rest : List String} (ended : (first :: rest).getLast? = some name) :
      rest = [] ∧ name = first ∨ rest.getLast? = some name := by
    cases rest with
    | nil => exact .inl ⟨rfl, by simpa using ended.symm⟩
    | cons second rest => exact .inr (by rwa [List.getLast?_cons_cons] at ended)
  induction leads with
  | nil => cases ended
  | here _ onward ih =>
    rcases more ended with ⟨rfl, -⟩ | ended
    · cases onward
      exact absurd rfl (apart start)
    · exact ih start file ended apart
  | up onward ih =>
    rcases more ended with ⟨rfl, -⟩ | ended
    · cases onward
      exact absurd rfl (apart (wellFormed.parent start))
    · exact ih (wellFormed.parent start) file ended apart
  | free _ absent _ =>
    rw [absent] at file
    cases file
  | down _ found onward ih =>
    rcases more ended with ⟨rfl, -⟩ | ended
    · cases onward
      exact absurd rfl (apart found)
    · exact ih found file ended apart
  | file named _ | stop named _ _ =>
    rcases more ended with ⟨-, rfl⟩ | ended
    · exact named.1
    · cases ended
  | link named _ _ _ ih =>
    rcases more ended with ⟨-, rfl⟩ | ended
    · exact named.1
    · refine ih (origin_directory _ start) file ?_ apart
      rw [List.getLast?_append, ended, Option.some_or]

theorem at_file (wellFormed : files.WellFormed) (start : files.entry? at_ = some .directory)
    (leads : files.Leads true at_ names location) {content : FileContent}
    (file : files.entry? location = some (.file content)) {rest : List String}
    (again : files.Leads last at_ (names ++ rest) place) : rest = [] := by
  induction leads with
  | nil =>
    rw [start] at file
    cases file
  | here blank _ ih => exact ih start file ((here_iff blank).mp again)
  | up _ ih => exact ih (wellFormed.parent start) file (up_iff.mp again)
  | free _ absent _ =>
    rw [absent] at file
    cases file
  | down named found _ ih =>
    rw [List.cons_append, entered named, found] at again
    exact ih found file again
  | file named found =>
    rw [List.cons_append, entered named, found] at again
    exact again.1
  | stop _ _ unfollowed => cases unfollowed
  | @link _ _ further target _ named found _ _ ih =>
    rw [List.cons_append, entered named, found] at again
    dsimp only at again
    split at again
    next =>
      refine ih (origin_directory target start) file ?_
      rwa [List.append_assoc]
    next last =>
      have none : further ++ rest = [] := by simpa using fun other => last (.inr other)
      exact (List.append_eq_nil_iff.mp none).2

theorem single (leads : files.Leads false at_ [name] location) (named : Names name) :
    location = at_ ++ [name] := by
  rw [entered named] at leads
  split at leads
  next => exact leads.2
  next =>
    cases leads
    rfl
  next => exact leads.2
  next => simpa using leads

end Leads

/-- A path leads on by its last name from the directory that its other names lead to. -/
theorem locate_from {path : String} (wellFormed : files.WellFormed) (split : rawNames path = names ++ [name])
    (nonempty : name ≠ "") (above : files.Leads true (origin path files.working) names at_)
    (led : files.locate path last = .ok location) : files.Leads last at_ [name] location := by
  have start := origin_directory path wellFormed.working
  obtain ⟨directory, through, -, leads⟩ :=
    Leads.parent wellFormed start nonempty (split ▸ locate_leads led)
  cases above.unique through
  exact leads

/-- What is there after a change was there before, or is a file at one place, or a link that would have
led to this place. -/
def Redirected (files other : FileSystem) (place : Location) : Prop :=
  ∀ location entry, other.entry? location = some entry →
    files.entry? location = some entry ∨
      (location = place ∧ ∃ content, entry = .file content) ∨
        ∃ target, entry = .link target ∧
          files.Leads true (origin target location.dropLast) (rawNames target) place

namespace Redirected

variable (redirected : Redirected files other place)
include redirected

theorem directory (found : other.entry? location = some .directory) :
    files.entry? location = some .directory := by
  rcases redirected location _ found with same | ⟨-, content, same⟩ | ⟨target, same, -⟩
  · exact same
  · cases same
  · cases same

/-- Names that led to the place lead to it still, or to nothing, whatever names come after them. -/
theorem leads_still (wellFormed : files.WellFormed) (solid : files.entry? place ≠ some .directory)
    (start : files.entry? at_ = some .directory) (before : files.Leads true at_ names place)
    (leads : other.Leads true at_ (names ++ rest) location) :
    location = place ∨ other.entry? location = none := by
  generalize whole : names ++ rest = path at leads
  have more {at_ : Location} {names : List String} (start : files.entry? at_ = some .directory)
      (before : files.Leads true at_ names place) {rest path : List String} {name : String}
      (whole : names ++ rest = name :: path) : ∃ later, names = name :: later ∧ path = later ++ rest := by
    rcases List.append_eq_cons_iff.mp whole with ⟨rfl, -⟩ | later
    · cases before
      exact absurd start solid
    · exact later
  -- A link that was moved starts the names of its target again, with a shorter way after the change.
  induction leads generalizing names rest with
  | nil =>
    obtain ⟨rfl, -⟩ := List.append_eq_nil_iff.mp whole
    cases before
    exact .inl rfl
  | here blank _ ih =>
    obtain ⟨later, rfl, rfl⟩ := more start before whole
    exact ih start ((Leads.here_iff blank).mp before) rfl
  | up _ ih =>
    obtain ⟨later, rfl, rfl⟩ := more start before whole
    exact ih (wellFormed.parent start) (Leads.up_iff.mp before) rfl
  | free _ absent _ => exact .inr absent
  | down named found _ ih =>
    obtain ⟨later, rfl, rfl⟩ := more start before whole
    have there := redirected.directory found
    rw [Leads.entered named, there] at before
    exact ih there before rfl
  | file named found =>
    obtain ⟨later, rfl, -⟩ := more start before whole
    rcases redirected _ _ found with there | ⟨same, -⟩ | ⟨target, isLink, -⟩
    · rw [Leads.entered named, there] at before
      exact .inl before.2.symm
    · exact .inl same
    · cases isLink
  | stop _ _ unfollowed => cases unfollowed
  | @link at_ _ _ target _ named found _ _ ih =>
    rcases redirected _ _ found with there | ⟨-, content, isFile⟩ | ⟨target, isLink, toPlace⟩
    · obtain ⟨later, rfl, rfl⟩ := more start before whole
      rw [Leads.entered named, there] at before
      exact ih (origin_directory target start) (by simpa using before) (List.append_assoc ..)
    · cases isFile
    · cases isLink
      rw [List.dropLast_concat] at toPlace
      exact ih (origin_directory target start) toPlace rfl

/-- Where names lead after the change, they led before, unless they lead to the place or to nothing. -/
theorem leads_before (wellFormed : files.WellFormed) (solid : files.entry? place ≠ some .directory)
    (start : files.entry? at_ = some .directory) (leads : other.Leads true at_ names location) :
    files.Leads true at_ names location ∨ location = place ∨ other.entry? location = none := by
  induction leads with
  | nil => exact .inl .nil
  | here blank _ ih => exact (ih start).imp_left (.here blank)
  | up _ ih => exact (ih (wellFormed.parent start)).imp_left .up
  | free _ absent _ => exact .inr (.inr absent)
  | down named found _ ih =>
    have there := redirected.directory found
    exact (ih there).imp_left (.down named there)
  | file named found =>
    rcases redirected _ _ found with there | ⟨same, -⟩ | ⟨target, isLink, -⟩
    · exact .inl (.file named there)
    · exact .inr (.inl same)
    · cases isLink
  | stop _ _ unfollowed => cases unfollowed
  | link named found onto onward ih =>
    rcases redirected _ _ found with there | ⟨-, content, isFile⟩ | ⟨target, isLink, toPlace⟩
    · exact (ih (origin_directory _ start)).imp_left (.link named there onto)
    · cases isFile
    · cases isLink
      rw [List.dropLast_concat] at toPlace
      exact .inr (redirected.leads_still wellFormed solid (origin_directory _ start) toPlace onward)

end Redirected

end TextScenario.FileSystem
