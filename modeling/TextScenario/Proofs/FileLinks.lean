import TextScenario.Proofs.FileTrees

/-! Links on the way of names. Following names counts its links and its steps; as long as the targets of
links are as short as file systems keep them, the links alone decide whether it comes to an end. -/

namespace TextScenario.FileSystem

def greatestTarget : Nat := 4095

def ProperLinks (files : FileSystem) : Prop :=
  ∀ location target, files.entry? location = some (.link target) →
    target ≠ "" ∧ target.length ≤ greatestTarget

variable {files other : FileSystem} {last : Bool} {used : Nat} {at_ location place : Location}
  {name path : String} {names rest : List String}

theorem ProperLinks.of_entries (proper : ∀ entry ∈ files.entries, ∀ target, entry.2 = .link target →
    target ≠ "" ∧ target.length ≤ greatestTarget) : files.ProperLinks := by
  intro location target linked
  have below : location ≠ [] := by
    rintro rfl
    cases linked
  exact proper _ (mem_entries linked below) target rfl

theorem Leads.counted (leads : files.Leads last at_ names location) :
    ∃ used, files.LeadsBy last used at_ names location := by
  induction leads with
  | nil => exact ⟨0, .nil⟩
  | here blank _ ih => exact ih.imp fun _ => .here blank
  | up _ ih => exact ih.imp fun _ => .up
  | free named absent blank => exact ⟨0, .free named absent blank⟩
  | down named found _ ih => exact ih.imp fun _ => .down named found
  | file named found => exact ⟨0, .file named found⟩
  | stop named found unfollowed => exact ⟨0, .stop named found unfollowed⟩
  | link named found onto _ ih =>
    obtain ⟨used, onward⟩ := ih
    exact ⟨used + 1, .link named found onto onward⟩

private theorem splitAt_length (separator : Char) (text : List Char) :
    (Text.splitAt separator text).length ≤ text.length + 1 := by
  induction text with
  | nil => simp [Text.splitAt]
  | cons char text ih =>
    obtain ⟨piece, pieces, found⟩ := List.exists_cons_of_ne_nil (Text.splitAt_ne_nil separator text)
    rw [found] at ih
    rw [Text.splitAt, found]
    split
    · exact Nat.succ_le_succ ih
    · exact Nat.le_trans ih (Nat.le_succ _)

private theorem rawNames_length (path : String) : (rawNames path).length ≤ path.length + 1 := by
  rw [rawNames, List.length_map, ← String.length_toList]
  exact splitAt_length '/' path.toList

private theorem LeadsBy.follow (proper : files.ProperLinks)
    (leads : files.LeadsBy last used at_ names location) {fuel links : Nat} (allowed : used ≤ links)
    (enough : names.length + used * (greatestTarget + 1) < fuel) :
    files.follow last fuel links at_ names = .ok location := by
  induction leads generalizing fuel links with
  | nil =>
    obtain ⟨fuel, rfl⟩ := Nat.exists_eq_succ_of_ne_zero (Nat.ne_zero_of_lt enough)
    rfl
  | here blank _ ih =>
    obtain ⟨fuel, rfl⟩ := Nat.exists_eq_succ_of_ne_zero (Nat.ne_zero_of_lt enough)
    rw [List.length_cons] at enough
    rw [follow_here blank]
    exact ih allowed (by omega)
  | up _ ih =>
    obtain ⟨fuel, rfl⟩ := Nat.exists_eq_succ_of_ne_zero (Nat.ne_zero_of_lt enough)
    rw [List.length_cons] at enough
    rw [follow_up]
    exact ih allowed (by omega)
  | free named absent blank =>
    obtain ⟨fuel, rfl⟩ := Nat.exists_eq_succ_of_ne_zero (Nat.ne_zero_of_lt enough)
    rw [follow_name named]
    simp only [enter, absent]
    rw [if_pos (by simpa using blank)]
  | down named found _ ih =>
    obtain ⟨fuel, rfl⟩ := Nat.exists_eq_succ_of_ne_zero (Nat.ne_zero_of_lt enough)
    rw [List.length_cons] at enough
    rw [follow_name named]
    simp only [enter, found]
    exact ih allowed (by omega)
  | file named found =>
    obtain ⟨fuel, rfl⟩ := Nat.exists_eq_succ_of_ne_zero (Nat.ne_zero_of_lt enough)
    rw [follow_name named]
    simp only [enter, found, List.isEmpty_nil, if_true]
  | stop named found unfollowed =>
    obtain ⟨fuel, rfl⟩ := Nat.exists_eq_succ_of_ne_zero (Nat.ne_zero_of_lt enough)
    rw [follow_name named]
    simp only [enter, found, unfollowed, List.isEmpty_nil, Bool.not_false, Bool.and_self, if_true]
  | @link used at_ name rest target location named found onto _ ih =>
    obtain ⟨fuel, rfl⟩ := Nat.exists_eq_succ_of_ne_zero (Nat.ne_zero_of_lt enough)
    obtain ⟨links, rfl⟩ := Nat.exists_eq_succ_of_ne_zero (Nat.ne_zero_of_lt allowed)
    have onward : ¬ (rest.isEmpty && !last) = true := by
      cases last <;> simp_all
    have steps := rawNames_length target
    obtain ⟨nonempty, bound⟩ := proper _ _ found
    rw [follow_name named]
    simp only [enter, found, if_neg onward, if_neg nonempty]
    refine ih (Nat.le_of_succ_le_succ allowed) ?_
    rw [List.length_cons, Nat.succ_mul] at enough
    rw [List.length_append]
    omega

/-- A path leads to a place exactly if its names lead there by way of no more links than are allowed. -/
theorem locate_eq_ok_iff (proper : files.ProperLinks) :
    files.locate path last = .ok location ↔
      path ≠ "" ∧ '\x00' ∉ path.toList ∧ ∃ used ≤ greatestLinks,
        files.LeadsBy last used (origin path files.working) (rawNames path) location := by
  rw [locate]
  by_cases empty : path = ""
  · simp [empty]
  by_cases nul : '\x00' ∈ path.toList
  · simp [empty, nul]
  rw [if_neg empty, if_neg (by simpa using nul)]
  constructor
  · intro led
    exact ⟨empty, nul, follow_leadsBy led⟩
  · rintro ⟨-, -, used, within, leads⟩
    refine leads.follow proper within ?_
    have names := rawNames_length path
    simp only [greatestLinks, greatestTarget] at within ⊢
    omega

namespace LeadsBy

/-- Names lead to a directory, and a last name leads on from there. -/
def ByParent (files : FileSystem) (last : Bool) (used : Nat) (at_ : Location) (names : List String)
    (name : String) (location : Location) : Prop :=
  ∃ first second parent, used = first + second ∧ files.LeadsBy true first at_ names parent ∧
    files.entry? parent = some .directory ∧ files.LeadsBy last second parent [name] location

theorem byParent_cons {head : String} {path : List String}
    (start : files.entry? at_ = some .directory) (whole : names ++ [name] = head :: path)
    (leads : files.LeadsBy last used at_ (head :: path) location)
    (further : ∀ later, names = head :: later → path = later ++ [name] →
      ByParent files last used at_ names name location) :
    ByParent files last used at_ names name location := by
  rcases List.append_eq_cons_iff.mp whole with ⟨rfl, same⟩ | ⟨later, same, rest⟩
  · cases same
    exact ⟨0, used, at_, (Nat.zero_add used).symm, .nil, start, leads⟩
  · exact further later same rest

/-- The last name is looked up in the directory that the names before it lead to. -/
theorem parent (wellFormed : files.WellFormed) (start : files.entry? at_ = some .directory)
    (nonempty : name ≠ "") (leads : files.LeadsBy last used at_ (names ++ [name]) location) :
    ByParent files last used at_ names name location := by
  generalize whole : names ++ [name] = path at leads
  induction leads generalizing names with
  | nil => simp at whole
  | here blank onward ih =>
    refine byParent_cons start whole (.here blank onward) ?_
    rintro later rfl rfl
    obtain ⟨first, second, parent, sum, above, rest⟩ := ih start rfl
    exact ⟨first, second, parent, sum, .here blank above, rest⟩
  | up onward ih =>
    refine byParent_cons start whole (.up onward) ?_
    rintro later rfl rfl
    obtain ⟨first, second, parent, sum, above, rest⟩ := ih (wellFormed.parent start) rfl
    exact ⟨first, second, parent, sum, .up above, rest⟩
  | free named absent blank =>
    refine byParent_cons start whole (.free named absent blank) ?_
    rintro later rfl rfl
    exact absurd (blank name (by simp)) nonempty
  | down named found onward ih =>
    refine byParent_cons start whole (.down named found onward) ?_
    rintro later rfl rfl
    obtain ⟨first, second, parent, sum, above, rest⟩ := ih found rfl
    exact ⟨first, second, parent, sum, .down named found above, rest⟩
  | file named found =>
    refine byParent_cons start whole (.file named found) ?_
    rintro later rfl none
    simp at none
  | stop named found unfollowed =>
    refine byParent_cons start whole (.stop named found unfollowed) ?_
    rintro later rfl none
    simp at none
  | @link _ _ _ _ target _ named found onto onward ih =>
    refine byParent_cons start whole (.link named found onto onward) ?_
    rintro later rfl rfl
    obtain ⟨first, second, parent, rfl, above, rest⟩ :=
      ih (origin_directory target start) (List.append_assoc ..)
    exact ⟨first + 1, second, parent, by omega, .link named found (.inl rfl) above, rest⟩

/-- Names that lead to a directory can be followed by more names. -/
theorem append {more : List String} {parent : Location} {further : Nat}
    (leads : files.LeadsBy true used at_ names parent) (directory : files.entry? parent = some .directory)
    (onward : files.LeadsBy true further parent more location) :
    files.LeadsBy true (used + further) at_ (names ++ more) location := by
  induction leads with
  | nil => rwa [Nat.zero_add]
  | here blank _ ih => exact .here blank (ih directory onward)
  | up _ ih => exact .up (ih directory onward)
  | free _ absent _ =>
    rw [absent] at directory
    cases directory
  | down named found _ ih => exact .down named found (ih directory onward)
  | file _ found =>
    rw [found] at directory
    cases directory
  | stop _ _ unfollowed => cases unfollowed
  | link named found _ _ ih =>
    rw [Nat.add_right_comm]
    have onward := ih directory onward
    rw [List.append_assoc] at onward
    exact .link named found (.inl rfl) onward

/-- Blank names lead nowhere else. -/
theorem blanks_iff {blanks : List String} (blank : ∀ name ∈ blanks, name = "" ∨ name = ".") :
    files.LeadsBy last used at_ blanks location ↔ used = 0 ∧ location = at_ := by
  constructor
  · intro leads
    induction leads with
    | nil => exact ⟨rfl, rfl⟩
    | here _ _ ih => exact ih fun other inside => blank other (.tail _ inside)
    | up => simp at blank
    | free named | down named | file named | stop named | link named =>
      exact absurd (blank _ (.head _)) (by simp [named.1.1, named.1.2.1])
  · rintro ⟨rfl, rfl⟩
    induction blanks with
    | nil => exact .nil
    | cons name rest ih =>
      exact .here (blank name (.head _)) (ih fun other inside => blank other (.tail _ inside))

theorem without_blanks_cons {blanks path : List String} {head : String}
    (blank : ∀ name ∈ blanks, name = "" ∨ name = ".") (whole : names ++ blanks = head :: path)
    (leads : files.LeadsBy true used at_ (head :: path) location)
    (further : ∀ later, names = head :: later → path = later ++ blanks →
      files.LeadsBy true used at_ names location) :
    files.LeadsBy true used at_ names location := by
  rcases List.append_eq_cons_iff.mp whole with ⟨rfl, rfl⟩ | ⟨later, same, rest⟩
  · obtain ⟨rfl, rfl⟩ := (blanks_iff blank).mp leads
    exact .nil
  · exact further later same rest

/-- Names lead to a directory without the blank names after them. -/
theorem without_blanks {blanks : List String} (blank : ∀ name ∈ blanks, name = "" ∨ name = ".")
    (leads : files.LeadsBy true used at_ (names ++ blanks) location)
    (directory : files.entry? location = some .directory) :
    files.LeadsBy true used at_ names location := by
  generalize whole : names ++ blanks = path at leads
  induction leads generalizing names with
  | nil =>
    obtain ⟨rfl, -⟩ := List.append_eq_nil_iff.mp whole
    exact .nil
  | here empty onward ih =>
    refine without_blanks_cons blank whole (.here empty onward) ?_
    rintro later rfl rfl
    exact .here empty (ih directory rfl)
  | up onward ih =>
    refine without_blanks_cons blank whole (.up onward) ?_
    rintro later rfl rfl
    exact .up (ih directory rfl)
  | free _ absent _ =>
    rw [absent] at directory
    cases directory
  | down named found onward ih =>
    refine without_blanks_cons blank whole (.down named found onward) ?_
    rintro later rfl rfl
    exact .down named found (ih directory rfl)
  | file _ found =>
    rw [found] at directory
    cases directory
  | stop _ _ unfollowed => cases unfollowed
  | link named found onto onward ih =>
    refine without_blanks_cons blank whole (.link named found onto onward) ?_
    rintro later rfl rfl
    exact .link named found (.inl rfl) (ih directory (List.append_assoc ..))

/-- Names lead where they led if all directories are kept, and the links by way of which they lead there,
and what is there. -/
theorem kept (leads : files.LeadsBy true used at_ names location)
    (there : files.entry? location ≠ none)
    (directories : ∀ place, files.entry? place = some .directory → other.entry? place = some .directory)
    (links : ∀ place target rest fewer, fewer < used → files.entry? place = some (.link target) →
      files.LeadsBy true fewer (origin target place.dropLast) (rawNames target ++ rest) location →
        other.entry? place = some (.link target))
    (file : ∀ content, files.entry? location = some (.file content) →
      ∃ held, other.entry? location = some (.file held)) :
    other.LeadsBy true used at_ names location := by
  induction leads with
  | nil => exact .nil
  | here blank _ ih => exact .here blank (ih there links file)
  | up _ ih => exact .up (ih there links file)
  | free _ absent _ => exact absurd absent there
  | down named found _ ih => exact .down named (directories _ found) (ih there links file)
  | file named found =>
    obtain ⟨held, present⟩ := file _ found
    exact .file named present
  | stop _ _ unfollowed => cases unfollowed
  | @link used at_ name rest target _ named found onto onward ih =>
    have linked := links (at_ ++ [name]) target rest used (Nat.lt_succ_self used) found (by simpa using onward)
    refine .link named linked onto (ih there ?_ file)
    intro place target rest fewer less
    exact links place target rest fewer (Nat.lt_succ_of_lt less)

end LeadsBy

end TextScenario.FileSystem
