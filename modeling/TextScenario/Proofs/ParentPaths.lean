import Mathlib.Data.List.DropRight
import TextScenario.Change.Detector
import TextScenario.Proofs.FileLinks
import TextScenario.Proofs.FileNames

/-! The directory that a path is looked for in. It is named by the names of the path before the last one,
but for those that lead nowhere else. -/

namespace TextScenario

namespace FilePath

variable {path name : String} {names : List String}

def isBlankPiece (piece : List Char) : Bool :=
  piece == [] || piece == ['.']

def solidPieces (text : List Char) : List (List Char) :=
  (Text.splitAt '/' text).rdropWhile isBlankPiece

private theorem solidPieces_blank (text : List Char) {piece : List Char} (plain : '/' ∉ piece)
    (blank : isBlankPiece piece = true) : solidPieces (text ++ '/' :: piece) = solidPieces text := by
  rw [solidPieces, Text.splitAt_separated, Text.splitAt_absent plain,
    List.rdropWhile_concat_pos _ _ _ blank, solidPieces]

private theorem trimTail_solidPieces (fuel stop : Nat) (reversed : List Char) :
    solidPieces (trimTail fuel stop reversed).reverse = solidPieces reversed.reverse := by
  fun_induction trimTail fuel stop reversed with
  | case1 => rfl
  | case2 => rfl
  | case3 fuel rest long ih =>
    rw [ih, List.reverse_cons, solidPieces_blank _ (by simp) (by decide)]
  | case4 fuel rest long ih =>
    rw [ih, List.reverse_cons, List.reverse_cons, List.reverse_cons, List.append_assoc,
      solidPieces_blank _ (by simp) (by decide)]
    exact (solidPieces_blank _ (by decide) (by decide)).symm
  | case5 => rfl

private theorem trimTail_suffix (fuel stop : Nat) (reversed : List Char) :
    trimTail fuel stop reversed <:+ reversed := by
  fun_induction trimTail fuel stop reversed with
  | case1 => exact List.suffix_rfl
  | case2 => exact List.suffix_rfl
  | case3 fuel rest long ih => exact ih.trans (List.suffix_cons ..)
  | case4 fuel rest long ih => exact ih.trans (List.suffix_cons ..)
  | case5 => exact List.suffix_rfl

private theorem trimTail_long (fuel stop : Nat) (reversed : List Char) (long : stop ≤ reversed.length) :
    stop ≤ (trimTail fuel stop reversed).length := by
  fun_induction trimTail fuel stop reversed with
  | case1 => exact long
  | case2 => exact long
  | case3 fuel rest longer ih => exact ih (by simp at longer; omega)
  | case4 fuel rest longer ih => exact ih (by simp at longer ⊢; omega)
  | case5 => exact long

private theorem parent?_cases (split : FileSystem.rawNames path = names ++ [name]) (proper : Proper name) :
    (names = [] ∧ path.toList = name.toList ∧ parent? path = some "") ∨
      ∃ directory parent, path.toList = directory ++ '/' :: name.toList ∧
        names = (Text.splitAt '/' directory).map String.ofList ∧ parent? path = some parent ∧
        solidPieces parent.toList = solidPieces directory ∧ parent.toList <+: directory ++ ['/'] ∧
        (isAbsolute path = true → parent ≠ "") := by
  have plain := FileSystem.rawNames_plain path name (by simp [split])
  have last : (parts path).getLast? = some (.name name) := by
    have named := fileName?_eq split proper
    rw [fileName?] at named
    split at named
    next text last =>
      cases named
      exact last
    next => cases named
  have passed (rest : List Char) :
      (name.toList.reverse ++ rest).dropWhile (· != '/') = rest.dropWhile (· != '/') := by
    refine List.dropWhile_append_of_pos fun char inside => bne_iff_ne.mpr ?_
    rintro rfl
    exact plain (by simpa using inside)
  rcases text_cases split with ⟨rfl, whole⟩ | ⟨directory, whole, rfl⟩
  · refine .inl ⟨rfl, whole, ?_⟩
    have text : path.toList = [] ++ name.toList := whole
    have reversed := reversedText_eq text plain proper
    simp only [parent?, last, reversed, passed]
    rfl
  · have text : path.toList = (directory ++ ['/']) ++ name.toList := by simpa using whole
    have reversed := reversedText_eq text plain proper
    have head : (reversedText path).dropWhile (· != '/') = '/' :: directory.reverse := by
      rw [reversed, passed]
      simp
    generalize trimmed : trimTail ('/' :: directory.reverse).length (if isAbsolute path then 1 else 0)
      ('/' :: directory.reverse) = reversed
    refine .inr ⟨directory, String.ofList reversed.reverse, whole, rfl, ?_, ?_, ?_, ?_⟩
    · simp only [parent?, last, head, trimmed]
    · rw [String.toList_ofList, ← trimmed, trimTail_solidPieces, List.reverse_cons,
        List.reverse_reverse, solidPieces_blank _ (by simp) (by decide)]
    · rw [String.toList_ofList, ← trimmed]
      simpa using List.reverse_prefix.mpr (trimTail_suffix _ _ ('/' :: directory.reverse))
    · intro absolute empty
      have long := trimTail_long ('/' :: directory.reverse).length 1 ('/' :: directory.reverse) (by simp)
      rw [if_pos absolute] at trimmed
      rw [trimmed] at long
      have none : reversed = [] := by simpa using empty
      simp [none] at long

private theorem names_solid (text : List Char) :
    ∃ blanks, (Text.splitAt '/' text).map String.ofList = (solidPieces text).map String.ofList ++ blanks ∧
      ∀ blank ∈ blanks, blank = "" ∨ blank = "." := by
  refine ⟨((Text.splitAt '/' text).rtakeWhile isBlankPiece).map String.ofList, ?_, ?_⟩
  · rw [solidPieces, ← List.map_append, List.rdropWhile_append_rtakeWhile]
  · intro blank member
    obtain ⟨piece, inside, rfl⟩ := List.mem_map.mp member
    have blank := List.mem_rtakeWhile_imp inside
    rcases Bool.or_eq_true_iff.mp blank with empty | here
    · exact .inl (by simpa using empty)
    · exact .inr (by rw [beq_iff_eq.mp here])

end FilePath

namespace FileSystem

variable {path name directory : String} {names : List String}

/-- A path to where the names of another path lead, up to the last of them. -/
structure Above (path directory : String) (names : List String) : Prop where
  same : ∃ kept blanks more, names = kept ++ blanks ∧ rawNames directory = kept ++ more ∧
    (∀ blank ∈ blanks, blank = "" ∨ blank = ".") ∧ ∀ blank ∈ more, blank = "" ∨ blank = "."
  absolute : FilePath.isAbsolute directory = FilePath.isAbsolute path
  nonempty : directory ≠ ""
  whole : ∀ char ∈ directory.toList, char ∈ path.toList ∨ char = '.'

theorem parentOrHere_above (split : rawNames path = names ++ [name]) (proper : FilePath.Proper name) :
    Above path (parentOrHere path) names := by
  have plain := rawNames_plain path name (by simp [split])
  rcases FilePath.parent?_cases split proper with ⟨rfl, whole, found⟩ |
    ⟨directory, parent, whole, rfl, found, solid, start, rooted⟩
  · have here : parentOrHere path = "." := by
      rw [parentOrHere, found]
      rfl
    have relative : FilePath.isAbsolute path = false := by
      rw [FilePath.isAbsolute, beq_eq_false_iff_ne, whole]
      intro first
      exact plain (List.mem_of_mem_head? (by simp [first]))
    rw [here]
    exact ⟨⟨[], [], ["."], rfl, by decide, by simp, by simp⟩, by rw [relative]; decide, by decide, by simp⟩
  obtain ⟨blanks, names, blank⟩ := FilePath.names_solid directory
  by_cases empty : parent = ""
  · have here : parentOrHere path = "." := by
      rw [parentOrHere, found, empty]
      rfl
    have relative : FilePath.isAbsolute path = false :=
      Bool.eq_false_iff.mpr fun absolute => rooted absolute empty
    have none : FilePath.solidPieces directory = [] := by
      rw [← solid, empty]
      decide
    rw [here]
    refine ⟨⟨[], blanks, ["."], by simpa [none] using names, by decide, blank, by simp⟩,
      by rw [relative]; decide, by decide, by simp⟩
  · have same : parentOrHere path = parent := by
      rw [parentOrHere, found, Option.filter_some, if_pos (by simpa using empty)]
      rfl
    obtain ⟨more, others, also⟩ := FilePath.names_solid parent.toList
    obtain ⟨rest, start⟩ := start
    rw [solid] at others
    rw [same]
    refine ⟨⟨_, blanks, more, names, others, blank, also⟩, ?_, empty, ?_⟩
    · have some : parent.toList ≠ [] := by simpa using empty
      have prefixed : path.toList = parent.toList ++ (rest ++ name.toList) := by
        rw [whole, ← List.append_assoc, start]
        simp
      rw [FilePath.isAbsolute, FilePath.isAbsolute, prefixed, List.head?_append_of_ne_nil _ some]
    · intro char inside
      refine .inl ?_
      rw [whole, List.append_cons, List.mem_append, ← start]
      exact .inl (List.mem_append_left _ inside)

/-- The path leads to the directory, by way of the same links. -/
theorem Above.locate {files : FileSystem} (above : Above path directory names)
    (proper : files.ProperLinks) (plain : '\x00' ∉ path.toList) {used : Nat} (within : used ≤ greatestLinks)
    {location : Location} (leads : files.LeadsBy true used (origin path files.working) names location)
    (found : files.entry? location = some .directory) : files.locate directory = .ok location := by
  obtain ⟨kept, blanks, more, rfl, others, blank, also⟩ := above.same
  have sameOrigin : origin directory files.working = origin path files.working := by
    rw [origin, origin, above.absolute]
  refine (locate_eq_ok_iff proper).mpr ⟨above.nonempty, ?_, used, within, ?_⟩
  · intro nul
    rcases above.whole _ nul with inside | dot
    · exact plain inside
    · exact absurd dot (by decide)
  · rw [others, sameOrigin]
    exact (leads.without_blanks blank found).append found ((LeadsBy.blanks_iff also).mpr ⟨rfl, rfl⟩)

end FileSystem

end TextScenario
