import TextScenario.Proofs.FileTrees

/-! The last name of a path. A path whose extension is replaced has another last name, and the names
before it are the same. -/

namespace TextScenario.FilePath

variable {path name : String} {names : List String}

/-- A path is its last name, or this stands after a separator. -/
theorem text_cases (split : FileSystem.rawNames path = names ++ [name]) :
    (names = [] ∧ path.toList = name.toList) ∨ ∃ directory, path.toList = directory ++ '/' :: name.toList ∧
      names = (Text.splitAt '/' directory).map String.ofList := by
  obtain ⟨front, last, pieces, rfl, single⟩ := List.map_eq_append_iff.mp split
  obtain ⟨piece, rfl, rfl⟩ := List.map_eq_singleton_iff.mp single
  have absent := Text.splitAt_plain '/' path.toList piece (by simp [pieces])
  cases front with
  | nil => exact .inl ⟨rfl, by simpa using (Text.splitAt_flatMap '/' path.toList pieces).symm⟩
  | cons first rest =>
    have whole := Text.splitAt_flatMap '/' path.toList pieces
    generalize held : first ++ rest.flatMap ('/' :: ·) = directory at *
    have whole : path.toList = directory ++ '/' :: piece := by
      rw [← whole, ← held]
      simp
    rw [whole, Text.splitAt_separated, Text.splitAt_absent absent] at pieces
    exact .inr ⟨directory, by simp [whole], by rw [(List.append_inj' pieces rfl).1]⟩

private theorem rawNames_concat (split : FileSystem.rawNames path = names ++ [name]) :
    ∃ before, path.toList = before ++ name.toList ∧ ∀ other : List Char, '/' ∉ other →
      FileSystem.rawNames (String.ofList (before ++ other)) = names ++ [String.ofList other] := by
  rcases text_cases split with ⟨rfl, whole⟩ | ⟨directory, whole, rfl⟩
  · refine ⟨[], whole, ?_⟩
    intro other plain
    simp [FileSystem.rawNames, Text.splitAt_absent plain]
  · refine ⟨directory ++ ['/'], by simp [whole], ?_⟩
    intro other plain
    rw [FileSystem.rawNames, String.toList_ofList, List.append_assoc, List.singleton_append,
      Text.splitAt_separated, Text.splitAt_absent plain]
    simp

/-- Whether a path starts at the root is seen at its names. -/
theorem isAbsolute_eq (split : FileSystem.rawNames path = names ++ [name]) (nonempty : name ≠ "") :
    isAbsolute path = (names.head? == some "") := by
  rw [FileSystem.rawNames] at split
  rw [isAbsolute]
  cases text : path.toList with
  | nil =>
    rw [text] at split
    have single := List.append_eq_singleton_iff.mp split.symm
    simp [nonempty] at single
  | cons first rest =>
    rw [text, Text.splitAt] at split
    obtain ⟨piece, pieces, found⟩ := List.exists_cons_of_ne_nil (Text.splitAt_ne_nil '/' rest)
    rw [found] at split
    by_cases slash : first = '/'
    · subst slash
      rcases List.cons_eq_append_iff.mp split with ⟨rfl, single⟩ | ⟨later, rfl, -⟩
      · simp at single
      · rfl
    · rw [if_neg slash] at split
      have more : String.ofList (first :: piece) ≠ "" := by simp
      rcases List.cons_eq_append_iff.mp split with ⟨rfl, -⟩ | ⟨later, rfl, -⟩
      · simp [slash]
      · rw [List.head?_cons, List.head?_cons, Option.some_beq_some, Option.some_beq_some,
          beq_eq_false_iff_ne.mpr slash, beq_eq_false_iff_ne.mpr more]

private theorem Proper.chars (proper : Proper name) :
    name.toList ≠ [] ∧ name.toList ≠ ['.'] ∧ name.toList ≠ ['.', '.'] := by
  obtain ⟨nonempty, notHere, notUp⟩ := proper
  refine ⟨by simpa using nonempty, ?_, ?_⟩
  · intro same
    exact notHere (String.toList_inj.mp same)
  · intro same
    exact notUp (String.toList_inj.mp same)

private theorem partsOf_concat (pieces : List (List Char)) (proper : Proper name) :
    partsOf (pieces ++ [name.toList]) = partsOf pieces ++ [.name name] := by
  obtain ⟨nonempty, notHere, notUp⟩ := proper.chars
  induction pieces with
  | nil => simp [partsOf, nonempty, notHere, notUp]
  | cons piece pieces ih =>
    simp only [List.cons_append, partsOf, ih]
    split
    · rfl
    split <;> rfl

theorem fileName?_eq (split : FileSystem.rawNames path = names ++ [name]) (proper : Proper name) :
    fileName? path = some name := by
  obtain ⟨front, last, pieces, rfl, single⟩ := List.map_eq_append_iff.mp split
  obtain ⟨piece, rfl, rfl⟩ := List.map_eq_singleton_iff.mp single
  have added (front : List (List Char)) := partsOf_concat front proper
  rw [String.toList_ofList] at added
  obtain ⟨nonempty, notHere, -⟩ := proper.chars
  rw [String.toList_ofList] at nonempty notHere
  have last : (parts path).getLast? = some (.name (String.ofList piece)) := by
    rw [parts, pieces]
    split
    next empty => simp at empty
    next empty =>
      have single := List.append_eq_singleton_iff.mp empty
      simp [nonempty] at single
    next rest _ root =>
      rcases List.append_eq_cons_iff.mp root with ⟨-, single⟩ | ⟨later, -, rfl⟩
      · cases single
        exact absurd rfl nonempty
      · rw [added, ← List.cons_append, List.getLast?_concat]
    next rest here =>
      rcases List.append_eq_cons_iff.mp here with ⟨-, single⟩ | ⟨later, -, rfl⟩
      · cases single
        exact absurd rfl notHere
      · rw [added, ← List.cons_append, List.getLast?_concat]
    next => simp [added]
  rw [fileName?, last]

/-- The text of a path that ends in a name is all its text. -/
theorem reversedText_eq {before : List Char} (whole : path.toList = before ++ name.toList)
    (plain : '/' ∉ name.toList) (proper : Proper name) :
    reversedText path = name.toList.reverse ++ before.reverse := by
  have whole : path.toList.reverse = name.toList.reverse ++ before.reverse := by simp [whole]
  obtain ⟨nonempty, notHere, -⟩ := proper.chars
  rw [reversedText, whole]
  have kept (fuel stop : Nat) :
      trimTail fuel stop (name.toList.reverse ++ before.reverse) =
        name.toList.reverse ++ before.reverse := by
    cases fuel with
    | zero => rfl
    | succ fuel =>
      unfold trimTail
      split
      · rfl
      have absent : '/' ∉ name.toList.reverse := by simpa using plain
      split
      next slash =>
        rcases List.append_eq_cons_iff.mp slash with ⟨empty, -⟩ | ⟨later, same, -⟩
        · exact absurd (List.reverse_eq_nil_iff.mp empty) nonempty
        · simp [same] at absent
      next dot =>
        rcases List.append_eq_cons_iff.mp dot with ⟨empty, -⟩ | ⟨later, same, slash⟩
        · exact absurd (List.reverse_eq_nil_iff.mp empty) nonempty
        rcases List.append_eq_cons_iff.mp slash.symm with ⟨rfl, -⟩ | ⟨latest, rfl, -⟩
        · exact absurd (List.reverse_eq_iff.mp same) notHere
        · simp [same] at absent
      next => rfl
  exact kept _ _

private theorem splitExtension_sublist (name : String) :
    (splitExtension name).1.toList.Sublist name.toList := by
  rw [splitExtension]
  split
  next => exact .refl _
  next => exact .refl _
  next dot stem found =>
    split
    · exact .refl _
    · rw [String.toList_ofList, ← List.reverse_sublist, List.reverse_reverse]
      have within := List.drop_sublist (name.toList.reverse.takeWhile (· != '.')).length
        name.toList.reverse
      rw [found] at within
      exact (List.sublist_cons_self _ _).trans within

/-- A path whose extension is replaced has the names of the path, but for the last one. -/
theorem rawNames_withExtension (split : FileSystem.rawNames path = names ++ [name])
    (proper : Proper name) (extension : String) (extended : extension ≠ "")
    (plain : '/' ∉ extension.toList) :
    ∃ stem, FileSystem.rawNames (withExtension path extension) =
      names ++ [stem ++ "." ++ extension] := by
  obtain ⟨before, whole, renamed⟩ := rawNames_concat split
  have absent := FileSystem.rawNames_plain path name (by simp [split])
  refine ⟨(splitExtension name).1, ?_⟩
  have stem : '/' ∉ (splitExtension name).1.toList := fun inside =>
    absent ((splitExtension_sublist name).subset inside)
  have replaced : withExtension path extension =
      String.ofList (before ++ ((splitExtension name).1 ++ "." ++ extension).toList) := by
    have cut : (reversedText path).drop name.length = before.reverse := by
      rw [reversedText_eq whole absent proper, List.drop_left' (by rw [List.length_reverse, String.length_toList])]
    simp only [withExtension, fileName?_eq split proper, cut, List.reverse_reverse,
      if_neg (show ¬ extension.isEmpty = true by simpa using extended)]
    apply String.toList_inj.mp
    simp
  rw [replaced, renamed]
  · rw [String.ofList_toList]
  · simpa [stem] using plain

end TextScenario.FilePath
