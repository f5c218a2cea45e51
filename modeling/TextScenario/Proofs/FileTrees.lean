import TextScenario.Proofs.FileWays

/-! File systems as trees. Every entry is filed once and in a directory, under names that can stand
between separators; what follows a path keeps to the directories of the tree. -/

namespace TextScenario.FileSystem

/-- A name that can stand between separators. -/
def Plain (name : String) : Prop :=
  name ≠ "" ∧ '/' ∉ name.toList

instance (name : String) : Decidable (Plain name) :=
  inferInstanceAs (Decidable (_ ∧ _))

structure WellFormed (files : FileSystem) : Prop where
  once : (files.entries.map (·.1)).Nodup
  named : ∀ entry ∈ files.entries, ∀ name ∈ entry.1, Plain name
  rooted : ∀ entry ∈ files.entries, files.entry? entry.1.dropLast = some .directory
  working : files.entry? files.working = some .directory

variable {files : FileSystem} {location : Location} {entry : Entry}

theorem hasParent_iff :
    files.hasParent location = true ↔ files.entry? location.dropLast = some .directory := by
  rw [hasParent]
  split
  next found => simp [found]
  next other => simpa using other

theorem mem_entries (found : files.entry? location = some entry) (below : location ≠ []) :
    (location, entry) ∈ files.entries := by
  rw [FileSystem.entry?, if_neg (by simpa using below)] at found
  obtain ⟨before, after, same, -⟩ := List.lookup_eq_some_iff.mp found
  simp [same]

theorem entry?_of_mem (once : (files.entries.map (·.1)).Nodup) (below : location ≠ [])
    (member : (location, entry) ∈ files.entries) : files.entry? location = some entry := by
  rw [FileSystem.entry?, if_neg (by simpa using below)]
  obtain ⟨before, after, same⟩ := List.append_of_mem member
  refine List.lookup_eq_some_iff.mpr ⟨before, after, same, ?_⟩
  intro other earlier
  rw [same, List.map_append, List.map_cons] at once
  have apart := (List.nodup_append.mp once).2.2 other.1 (List.mem_map_of_mem earlier) location (by simp)
  exact bne_iff_ne.mpr (Ne.symm apart)

namespace WellFormed

theorem parent (wellFormed : files.WellFormed) (found : files.entry? location = some entry) :
    files.entry? location.dropLast = some .directory := by
  by_cases root : location = []
  · subst root
    rfl
  · exact wellFormed.rooted _ (mem_entries found root)

theorem names (wellFormed : files.WellFormed) (found : files.entry? location = some entry) :
    ∀ name ∈ location, Plain name := by
  by_cases root : location = []
  · simp [root]
  · exact wellFormed.named _ (mem_entries found root)

end WellFormed

namespace WellFormed

/-- Whatever is put in a directory leaves a tree, unless it takes the place of a directory. -/
theorem put (wellFormed : files.WellFormed) (entry : Entry)
    (inside : files.entry? location.dropLast = some .directory)
    (plain : ∀ name ∈ location, Plain name)
    (free : files.entry? location ≠ some .directory) : (files.put location entry).WellFormed := by
  have kept {other : Location} (directory : files.entry? other = some .directory) :
      entry? (files.put location entry) other = some .directory := by
    rw [entry?_put_other]
    · exact directory
    · rintro rfl
      exact free directory
  refine ⟨?_, ?_, ?_, kept wellFormed.working⟩
  · rw [FileSystem.put, List.map_cons, List.nodup_cons]
    refine ⟨?_, wellFormed.once.sublist (List.filter_sublist.map _)⟩
    simp
  · intro other member
    rcases List.mem_cons.mp member with rfl | member
    · exact plain
    · exact wellFormed.named other (List.mem_filter.mp member).1
  · intro other member
    rcases List.mem_cons.mp member with rfl | member
    · exact kept inside
    · exact kept (wellFormed.rooted other (List.mem_filter.mp member).1)

theorem erase (wellFormed : files.WellFormed) (free : files.entry? location ≠ some .directory) :
    (files.erase location).WellFormed := by
  have kept {other : Location} (directory : files.entry? other = some .directory) :
      entry? (files.erase location) other = some .directory := by
    rw [entry?_erase_other]
    · exact directory
    · rintro rfl
      exact free directory
  refine ⟨wellFormed.once.sublist (List.filter_sublist.map _), ?_, ?_, kept wellFormed.working⟩
  · intro other member
    exact wellFormed.named other (List.mem_filter.mp member).1
  · intro other member
    exact kept (wellFormed.rooted other (List.mem_filter.mp member).1)

end WellFormed

theorem rawNames_plain (path : String) : ∀ name ∈ rawNames path, '/' ∉ name.toList := by
  intro name member
  obtain ⟨piece, inside, rfl⟩ := List.mem_map.mp member
  rw [String.toList_ofList]
  exact Text.splitAt_plain '/' path.toList piece inside

/-- What holds of every location that names can lead to from a directory. -/
structure Reached (files : FileSystem) (last : Bool) (location : Location) : Prop where
  unlinked : last = true → ∀ target, files.entry? location ≠ some (.link target)
  plain : ∀ name ∈ location, Plain name

private theorem Reached.directory (wellFormed : files.WellFormed) (last : Bool)
    (found : files.entry? location = some .directory) : Reached files last location where
  unlinked := by simp [found]
  plain := wellFormed.names found

theorem origin_directory {at_ : Location} (target : String)
    (start : files.entry? at_ = some .directory) :
    files.entry? (origin target at_) = some .directory := by
  rw [origin]
  split
  · rfl
  · exact start

private theorem Leads.reached (wellFormed : files.WellFormed) {last : Bool} {at_ : Location}
    {names : List String} (start : files.entry? at_ = some .directory)
    (plain : ∀ name ∈ names, '/' ∉ name.toList) (leads : files.Leads last at_ names location) :
    Reached files last location := by
  have entered {at_ : Location} {name : String} (start : files.entry? at_ = some .directory)
      (named : Names name) (noSlash : '/' ∉ name.toList) : ∀ other ∈ at_ ++ [name], Plain other := by
    intro other inside
    rcases List.mem_append.mp inside with above | own
    · exact wellFormed.names start other above
    · cases List.mem_singleton.mp own
      exact ⟨named.1.1, noSlash⟩
  induction leads with
  | nil => exact .directory wellFormed last start
  | here _ _ ih => exact ih start fun other inside => plain other (.tail _ inside)
  | up _ ih => exact ih (wellFormed.parent start) fun other inside => plain other (.tail _ inside)
  | free named absent _ => exact ⟨by simp [absent], entered start named (plain _ (.head _))⟩
  | down _ found _ ih => exact ih found fun other inside => plain other (.tail _ inside)
  | file named found => exact ⟨by simp [found], entered start named (plain _ (.head _))⟩
  | stop named _ unfollowed =>
    exact ⟨by simp [unfollowed], entered start named (plain _ (.head _))⟩
  | link _ _ _ _ ih =>
    refine ih (origin_directory _ start) ?_
    intro other inside
    rcases List.mem_append.mp inside with linked | further
    · exact rawNames_plain _ other linked
    · exact plain other (.tail _ further)

theorem locate_reached (wellFormed : files.WellFormed) {path : String} {last : Bool}
    (led : files.locate path last = .ok location) : Reached files last location :=
  (locate_leads led).reached wellFormed (origin_directory path wellFormed.working)
    (rawNames_plain path)

end TextScenario.FileSystem
