import Mathlib.Data.String.Basic
import TextScenario.Change.Detector
import TextScenario.Proofs.CacheEntries
import TextScenario.Proofs.FileTrees

/-! Scenario files of a directory: which files are listed, in what order, and that the way to a listed
file goes through its directory. -/

namespace TextScenario

namespace FilePath

theorem isAbsolute_plain {name : String} (plain : '/' ∉ name.toList) : isAbsolute name = false := by
  rw [isAbsolute, beq_eq_false_iff_ne]
  intro first
  exact plain (List.mem_of_mem_head? (by simp [first]))

/-- What stands before a name that is joined to a directory. -/
theorem join_eq {directory : String} (nonempty : directory ≠ "") :
    ∃ lead, (lead = directory ∧ directory.toList.getLast? = some '/' ∨ lead = directory ++ "/") ∧
      ∀ name : String, '/' ∉ name.toList → join directory name = lead ++ name := by
  by_cases ended : directory.toList.getLast? = some '/'
  · refine ⟨directory, .inl ⟨rfl, ended⟩, ?_⟩
    intro name plain
    rw [join, if_neg (by simp [isAbsolute_plain plain, nonempty]), if_pos ended]
  · refine ⟨directory ++ "/", .inr rfl, ?_⟩
    intro name plain
    rw [join, if_neg (by simp [isAbsolute_plain plain, nonempty]), if_neg ended]

theorem isAbsolute_append {first : String} (nonempty : first ≠ "") (second : String) :
    isAbsolute (first ++ second) = isAbsolute first := by
  have some : first.toList ≠ [] := by simpa using nonempty
  simp [isAbsolute, List.head?_append_of_ne_nil _ some]

/-- A name joined to a directory is the last of the names, after those of the directory but for an
empty one. -/
theorem rawNames_join {directory name : String} (nonempty : directory ≠ "")
    (plain : '/' ∉ name.toList) :
    ∃ names blanks, FileSystem.rawNames directory = names ++ blanks ∧ (∀ blank ∈ blanks, blank = "") ∧
      FileSystem.rawNames (join directory name) = names ++ [name] := by
  obtain ⟨lead, cases, joined⟩ := join_eq nonempty
  rw [joined name plain]
  have single : Text.splitAt '/' name.toList = [name.toList] := Text.splitAt_absent plain
  rcases cases with ⟨rfl, ended⟩ | rfl
  · obtain ⟨text, same⟩ := List.getLast?_eq_some_iff.mp ended
    refine ⟨(Text.splitAt '/' text).map String.ofList, [""], ?_, by simp, ?_⟩
    · simp [FileSystem.rawNames, same, Text.splitAt_separated, Text.splitAt]
    · simp [FileSystem.rawNames, same, Text.splitAt_separated, single]
  · refine ⟨FileSystem.rawNames directory, [], by simp, by simp, ?_⟩
    simp [FileSystem.rawNames, Text.splitAt_separated, single]

private theorem length_join {directory name : String} (nonempty : directory ≠ "")
    (plain : '/' ∉ name.toList) (named : name ≠ "") :
    directory.length < (join directory name).length := by
  obtain ⟨lead, cases, joined⟩ := join_eq nonempty
  have long : 0 < name.length := Nat.pos_of_ne_zero (by simpa using named)
  rw [joined name plain, String.length_append]
  rcases cases with ⟨rfl, -⟩ | rfl
  · omega
  · rw [String.length_append]
    omega

private theorem isAbsolute_join {directory name : String} (nonempty : directory ≠ "")
    (plain : '/' ∉ name.toList) : isAbsolute (join directory name) = isAbsolute directory := by
  obtain ⟨lead, cases, joined⟩ := join_eq nonempty
  rw [joined name plain]
  rcases cases with ⟨rfl, -⟩ | rfl
  · exact isAbsolute_append nonempty name
  · rw [String.append_assoc, isAbsolute_append nonempty]

private theorem join_lt {directory first second : String} (nonempty : directory ≠ "")
    (firstPlain : '/' ∉ first.toList) (secondPlain : '/' ∉ second.toList) :
    join directory first < join directory second ↔ first < second := by
  obtain ⟨lead, -, joined⟩ := join_eq nonempty
  rw [joined first firstPlain, joined second secondPlain, String.lt_iff_toList_lt,
    String.lt_iff_toList_lt, String.toList_append, String.toList_append]
  induction lead.toList with
  | nil => rfl
  | cons letter rest ih => simpa using ih

end FilePath

namespace FileSystem

/-- A result of following names that go on from a directory, with the locations `before` on the way
to the directory and `all` on the way to the end. -/
def Through (files : FileSystem) (directory : Location) (extra : Nat) (more : List String)
    (result : Except FileError Location) (before all : List Location) : Prop :=
  ∃ left links, 0 < left ∧ result = files.follow true (left + extra) links directory more ∧
    (∀ place ∈ before, place ∈ all) ∧
    ∀ place ∈ files.visited true (left + extra) links directory more, place ∈ all

theorem Through.cons {files : FileSystem} {directory : Location} {extra : Nat} {more : List String}
    {result : Except FileError Location} {before all : List Location}
    (through : Through files directory extra more result before all) (place : Location) :
    Through files directory extra more result (place :: before) (place :: all) := by
  obtain ⟨left, links, some, same, first, second⟩ := through
  refine ⟨left, links, some, same, ?_, fun other inside => .tail _ (second other inside)⟩
  intro other inside
  rcases List.mem_cons.mp inside with rfl | inside
  · exact .head _
  · exact .tail _ (first other inside)

/-- Names that go on from a directory are followed by way of that directory. -/
theorem follow_through (files : FileSystem) {fuel links : Nat} {at_ directory : Location}
    {names blanks : List String} (extra : Nat) (more : List String)
    (blank : ∀ name ∈ blanks, name = "")
    (led : files.follow true fuel links at_ (names ++ blanks) = .ok directory)
    (found : files.entry? directory = some .directory) :
    Through files directory extra more (files.follow true (fuel + extra) links at_ (names ++ more))
      (files.visited true fuel links at_ (names ++ blanks))
      (files.visited true (fuel + extra) links at_ (names ++ more)) := by
  induction fuel generalizing links at_ names with
  | zero => cases led
  | succ fuel ih =>
    cases names with
    | nil =>
      obtain ⟨rfl, nothing⟩ := follow_blanks blank led
      refine ⟨fuel + 1, links, by omega, rfl, ?_, fun place member => member⟩
      rw [List.nil_append, nothing]
      simp
    | cons name rest =>
      rw [List.cons_append] at led
      rcases name_cases name with here | rfl | ⟨proper, long⟩ | named
      · rw [follow_here here] at led
        simpa only [Nat.succ_add, List.cons_append, follow_here here, visited_here here] using ih led
      · rw [follow_up] at led
        simpa only [Nat.succ_add, List.cons_append, follow_up, visited_up] using ih led
      · rw [follow_long proper long] at led
        cases led
      rw [follow_name named, enter] at led
      simp only [Nat.succ_add, List.cons_append, follow_name named, enter, visited_name named, beyond]
      split at led
      next absent =>
        split at led
        · cases led
          rw [absent] at found
          cases found
        · cases led
      next there => exact (ih led).cons _
      next content there =>
        split at led
        · cases led
          rw [there] at found
          cases found
        · cases led
      next target there =>
        rw [if_neg (by simp)] at led
        cases links with
        | zero => cases led
        | succ links =>
          dsimp only at led
          split at led
          · cases led
          next nonempty =>
            rw [← List.append_assoc] at led
            simp only [if_neg nonempty, Bool.not_true, Bool.and_false, Bool.false_eq_true,
              if_false]
            have through := (ih led).cons (at_ ++ [name])
            simpa only [List.append_assoc] using through

variable {files : FileSystem} {directory file : String} {scenarios : List String}

/-- The way to a file that is named by its directory goes through the directory, to an entry there. -/
theorem looked_join {location : Location} {name : String} (plain : '/' ∉ name.toList)
    (proper : FilePath.Proper name)
    (found : files.lookup directory = .ok (location, .directory))
    (file : files.isFile (FilePath.join directory name) = true) :
    (∀ place ∈ files.looked directory, place ∈ files.looked (FilePath.join directory name)) ∧
      location ++ [name] ∈ files.looked (FilePath.join directory name) := by
  obtain ⟨led, there⟩ := lookup_eq_ok_iff.mp found
  obtain ⟨place, content, opened⟩ := isFile_iff.mp file
  obtain ⟨reached, -⟩ := lookup_eq_ok_iff.mp opened
  have nonempty : directory ≠ "" := by
    rintro rfl
    cases led
  obtain ⟨names, blanks, whole, blank, joined⟩ := FilePath.rawNames_join nonempty plain
  have longer := FilePath.length_join nonempty plain proper.1
  have absolute := FilePath.isAbsolute_join nonempty plain
  generalize FilePath.join directory name = path at *
  have named : path ≠ "" := by
    rintro rfl
    exact absurd longer (Nat.not_lt_zero _)
  rw [locate, if_neg nonempty] at led
  rw [locate, if_neg named] at reached
  rw [looked, if_neg nonempty, looked, if_neg named]
  split at led
  · cases led
  next noNul =>
    split at reached
    · cases reached
    next noNul' =>
      rw [if_neg noNul, if_neg noNul']
      rw [whole] at led ⊢
      rw [joined, absolute] at reached ⊢
      have fuel : path.length + 42 * 4096 =
          directory.length + 42 * 4096 + (path.length - directory.length) := by omega
      rw [fuel] at reached ⊢
      obtain ⟨left, links, some, same, before, after⟩ :=
        follow_through files (path.length - directory.length) [name] blank led there
      rw [same] at reached
      obtain ⟨left, rfl⟩ := Nat.exists_eq_succ_of_ne_zero (Nat.pos_iff_ne_zero.mp some)
      refine ⟨before, after _ ?_⟩
      rcases Nat.lt_or_ge greatestName name.utf8ByteSize with long | short
      · rw [Nat.succ_add, follow_long proper long] at reached
        cases reached
      · rw [Nat.succ_add, visited_name ⟨proper, short⟩]
        exact .head _

theorem isScenarioName_proper {name : String} (scenario : isScenarioName name = true) :
    FilePath.Proper name := by
  refine ⟨?_, ?_, ?_⟩ <;> rintro rfl <;> revert scenario <;> decide

/-- Whether a path is that of a scenario file directly in a directory. -/
def HasScenario (files : FileSystem) (directory file : String) : Prop :=
  ∃ location name, files.lookup directory = .ok (location, .directory) ∧
    files.entry? (location ++ [name]) ≠ none ∧ isScenarioName name = true ∧
    file = FilePath.join directory name ∧ files.isFile file = true

private theorem mem_children (location : Location) (name : String) (entry : Entry) :
    (name, entry) ∈ files.children location ↔ (location ++ [name], entry) ∈ files.entries := by
  simp only [children, List.mem_filterMap]
  constructor
  · rintro ⟨⟨other, held⟩, member, shown⟩
    cases last : other.getLast? with
    | none => simp [last] at shown
    | some final =>
      simp only [last, Option.ite_none_right_eq_some, Option.some.injEq, Prod.mk.injEq] at shown
      obtain ⟨rfl, rfl, rfl⟩ := shown
      obtain ⟨before, rfl⟩ := List.getLast?_eq_some_iff.mp last
      simpa using member
  · intro member
    exact ⟨_, member, by simp⟩

private theorem children_once (once : (files.entries.map (·.1)).Nodup) (location : Location) :
    ((files.children location).map (·.1)).Nodup := by
  have filed : (((files.children location).map (·.1)).map fun name => location ++ [name]).Sublist
      (files.entries.map (·.1)) := by
    rw [children]
    induction files.entries with
    | nil => exact .slnil
    | cons entry rest ih =>
      obtain ⟨other, held⟩ := entry
      cases last : other.getLast? with
      | none =>
        rw [List.filterMap_cons_none (by simp [last])]
        exact .cons _ ih
      | some name =>
        obtain ⟨before, rfl⟩ := List.getLast?_eq_some_iff.mp last
        by_cases here : before = location
        · subst here
          have shown : (before ++ [name]).dropLast = before := by simp
          simp only [List.filterMap_cons, last, shown, if_true, List.map_cons]
          exact .cons_cons _ ih
        · rw [List.filterMap_cons_none (by simp [here])]
          exact .cons _ ih
  refine List.Pairwise.of_map (fun name => location ++ [name]) ?_ (filed.nodup once)
  intro first second apart same
  exact apart (congrArg (fun name => location ++ [name]) same)

private theorem list_ok {location : Location} (found : files.lookup directory = .ok (location, .directory)) :
    files.list directory = .ok (((files.children location).map (·.1)).mergeSort
      fun left right => decide (left ≤ right)) := by
  rw [list, found]
  rfl

private theorem list_eq_ok {names : List String} (listed : files.list directory = .ok names) :
    ∃ location, files.lookup directory = .ok (location, .directory) := by
  obtain ⟨⟨location, entry⟩, found, listed⟩ := Except.bind_ok listed
  cases entry with
  | directory => exact ⟨location, found⟩
  | file | link => cases listed

/-- The scenario files of a directory, in the order of their names. -/
theorem scenarioFiles_ok {location : Location}
    (found : files.lookup directory = .ok (location, .directory)) :
    files.scenarioFiles directory = .ok ((((((files.children location).map (·.1)).mergeSort
      fun left right => decide (left ≤ right)).filter isScenarioName).map
      (FilePath.join directory)).filter files.isFile) := by
  have there : files.exists? directory = true := exists?_iff.mpr ⟨_, _, found⟩
  rw [scenarioFiles, there, list_ok found]
  rfl

private theorem scenarioFiles_eq_ok (listed : files.scenarioFiles directory = .ok scenarios) :
    scenarios = [] ∧ files.exists? directory = false ∨
      ∃ location, files.lookup directory = .ok (location, .directory) := by
  rw [scenarioFiles] at listed
  split at listed
  next absent =>
    cases listed
    exact .inl ⟨rfl, by simpa using absent⟩
  · split at listed
    · cases listed
    next names found => exact .inr (list_eq_ok found)

theorem mem_scenarioFiles (wellFormed : files.WellFormed)
    (listed : files.scenarioFiles directory = .ok scenarios) :
    file ∈ scenarios ↔ files.HasScenario directory file := by
  rcases scenarioFiles_eq_ok listed with ⟨rfl, absent⟩ | ⟨location, found⟩
  · constructor
    · intro member
      cases member
    · rintro ⟨location, name, found, -⟩
      rw [exists?_iff.mpr ⟨_, _, found⟩] at absent
      cases absent
  rw [scenarioFiles_ok found] at listed
  cases listed
  simp only [List.mem_filter, List.mem_map, List.mem_mergeSort]
  constructor
  · rintro ⟨⟨name, ⟨⟨⟨other, entry⟩, member, rfl⟩, named⟩, rfl⟩, isFile⟩
    refine ⟨location, other, found, ?_, named, rfl, isFile⟩
    rw [entry?_of_mem wellFormed.once (by simp) ((mem_children location other entry).mp member)]
    simp
  · rintro ⟨place, name, again, there, named, rfl, isFile⟩
    cases found.symm.trans again
    obtain ⟨entry, there⟩ := Option.ne_none_iff_exists'.mp there
    refine ⟨⟨name, ⟨⟨(name, entry), ?_, rfl⟩, named⟩, rfl⟩, isFile⟩
    exact (mem_children location name entry).mpr (mem_entries there (by simp))

theorem scenarioFiles_ascending (wellFormed : files.WellFormed)
    (listed : files.scenarioFiles directory = .ok scenarios) : scenarios.Pairwise (· < ·) := by
  rcases scenarioFiles_eq_ok listed with ⟨rfl, -⟩ | ⟨location, found⟩
  · exact .nil
  have nonempty : directory ≠ "" := by
    rintro rfl
    cases found
  rw [scenarioFiles_ok found] at listed
  cases listed
  have ordered : (((files.children location).map (·.1)).mergeSort
      fun left right => decide (left ≤ right)).Pairwise fun left right => decide (left ≤ right) :=
    List.pairwise_mergeSort (by simpa using fun _ _ _ => le_trans) (by simpa using le_total) _
  have once := (List.mergeSort_perm ((files.children location).map (·.1))
    fun left right => decide (left ≤ right)).nodup_iff.mpr (children_once wellFormed.once location)
  have plain : ∀ name ∈ ((files.children location).map (·.1)).mergeSort
      (fun left right => decide (left ≤ right)), '/' ∉ name.toList := by
    intro name member
    obtain ⟨⟨other, entry⟩, inside, rfl⟩ := List.mem_map.mp (List.mem_mergeSort.mp member)
    exact (wellFormed.named _ ((mem_children location other entry).mp inside) other (by simp)).2
  generalize ((files.children location).map (·.1)).mergeSort
    (fun left right => decide (left ≤ right)) = names at *
  refine List.Pairwise.filter _ (List.pairwise_map.mpr (List.Pairwise.filter _ ?_))
  refine (ordered.and once).imp_of_mem ?_
  rintro first second firstIn secondIn ⟨before, apart⟩
  refine (FilePath.join_lt nonempty (plain _ firstIn) (plain _ secondIn)).mpr ?_
  exact lt_of_le_of_ne (by simpa using before) apart

end FileSystem

end TextScenario
