import TextScenario.Proofs.PatternCaptures
import TextScenario.Proofs.TextLines
import TextScenario.Proofs.TextPieces

/-! Placeholders of a pattern and of its segments. No delimiter and no blank can stand in a placeholder,
so cutting and trimming a pattern leaves all of them as they are. -/

namespace TextScenario.Text

/-- A character that can be no part of a placeholder. -/
structure NameRule.Breaks (rule : NameRule) (char : Char) : Prop where
  foreign : rule.member char = false
  noOpen : char ≠ '{'
  noClose : char ≠ '}'

private theorem piecesFrom_break {rule : NameRule} {char : Char} (breaks : rule.Breaks char)
    (pending : Option (List Char)) (before after : List Char) :
    (piecesFrom rule pending (before ++ char :: after)).filterMap Piece.name? =
      (piecesFrom rule pending before).filterMap Piece.name? ++
        (piecesFrom rule none after).filterMap Piece.name? := by
  rw [piecesFrom_fresh breaks.foreign breaks.noClose, List.filterMap_append, piecesFrom,
    if_neg breaks.noOpen]
  rfl

end TextScenario.Text

namespace TextScenario.Pattern

theorem breaks_delimiter (delimiter : Delimiter) : nameRule.Breaks delimiter.char := by
  cases delimiter <;> exact ⟨by decide, by decide, by decide⟩

private theorem breaks_blank {char : Char} (blank : Text.isBlank char = true) : nameRule.Breaks char := by
  refine ⟨?_, ?_, ?_⟩
  · cases member : nameRule.member char with
    | false => rfl
    | true =>
      have ranges : nameRule.member char =
          (((decide ('A'.val ≤ char.val ∧ char.val ≤ 'Z'.val) ||
            ('a'.val ≤ char.val && char.val ≤ 'z'.val)) ||
            ('0'.val ≤ char.val && char.val ≤ '9'.val)) || char == '_') := rfl
      rw [ranges] at member
      simp only [Bool.or_eq_true, Bool.and_eq_true, decide_eq_true_iff, beq_iff_eq,
        UInt32.le_iff_toNat_le, Char.toNat_val, ← Char.toNat_inj, Char.reduceToNat] at member
      simp only [Text.isBlank, Bool.or_eq_true, Bool.and_eq_true, decide_eq_true_iff,
        beq_iff_eq] at blank
      omega
  · rintro rfl
    exact absurd blank (by decide)
  · rintro rfl
    exact absurd blank (by decide)

private theorem placeholderChars_break {char : Char} (breaks : nameRule.Breaks char) (before after : List Char) :
    placeholderChars (before ++ char :: after) = placeholderChars before ++ placeholderChars after :=
  Text.piecesFrom_break breaks none before after

private theorem placeholderChars_trimLeft (text : List Char) :
    placeholderChars (Text.trimLeft text) = placeholderChars text := by
  induction text with
  | nil => rfl
  | cons char rest ih =>
    rw [Text.trimLeft, List.dropWhile_cons]
    split
    next blank => exact ih.trans (placeholderChars_break (breaks_blank blank) [] rest).symm
    next => rfl

private theorem placeholderChars_trimRight (text : List Char) :
    placeholderChars (Text.trimRight text) = placeholderChars text := by
  induction text using List.reverseRecOn with
  | nil => rfl
  | append_singleton rest char ih =>
    cases blank : Text.isBlank char with
    | false => rw [Text.trimRight_solid rest blank]
    | true =>
      rw [Text.trimRight_blank rest blank, ih, placeholderChars_break (breaks_blank blank)]
      exact (List.append_nil _).symm

private theorem placeholderChars_trim (text : List Char) :
    placeholderChars (Text.trim text) = placeholderChars text :=
  (placeholderChars_trimRight _).trans (placeholderChars_trimLeft text)

private theorem placeholderChars_splitAt (delimiter : Delimiter) (text : List Char) :
    (Text.splitAt delimiter.char text).flatMap placeholderChars = placeholderChars text := by
  induction size : text.length using Nat.strongRecOn generalizing text with
  | ind size ih =>
    by_cases found : delimiter.char ∈ text
    · obtain ⟨before, after, rfl, absent⟩ := List.eq_append_cons_of_mem found
      rw [Text.splitAt_append absent, List.flatMap_cons, placeholderChars_break (breaks_delimiter _),
        ih after.length (by simp [← size]; omega) after rfl]
    · rw [Text.splitAt_absent found, List.flatMap_cons, List.flatMap_nil, List.append_nil]

private theorem placeholderChars_trimmed (pieces : List (List Char)) :
    ((pieces.map Text.trim).filter (!·.isEmpty)).flatMap placeholderChars =
      pieces.flatMap placeholderChars := by
  induction pieces with
  | nil => rfl
  | cons piece pieces ih =>
    rw [List.map_cons, List.filter_cons, List.flatMap_cons, ← placeholderChars_trim piece]
    split
    · rw [List.flatMap_cons, ih]
    next dropped =>
      have empty : Text.trim piece = [] := by simpa using dropped
      rw [ih, empty]
      rfl

theorem placeholderChars_segments (pattern : List Char) (delimiter : Delimiter) :
    (segments pattern delimiter).flatMap placeholderChars = placeholderChars pattern := by
  rw [segments]
  split
  · rw [placeholderChars_trimmed, placeholderChars_splitAt]
  · rw [List.flatMap_cons, List.flatMap_nil, List.append_nil]

private theorem names_ofPiece (pieces : List Text.Piece) :
    names (pieces.map .ofPiece) = (pieces.filterMap Text.Piece.name?).map String.ofList := by
  induction pieces with
  | nil => rfl
  | cons piece pieces ih =>
    rw [names] at ih
    cases piece with
    | char own => exact ih
    | placeholder name => exact congrArg (String.ofList name :: ·) ih

theorem names_append (left right : List Element) : names (left ++ right) = names left ++ names right :=
  List.filterMap_append

private theorem names_elementsOf (delimiter : Delimiter) (segments : List (List Char)) :
    names (elementsOf delimiter segments) = (segments.flatMap placeholderChars).map String.ofList := by
  fun_induction elementsOf delimiter segments with
  | case1 => rfl
  | case2 only =>
    rw [names_ofPiece, List.flatMap_cons, List.flatMap_nil, List.append_nil]
    rfl
  | case3 first rest _ ih =>
    rw [names_append, names_ofPiece, List.flatMap_cons, List.map_append, ← ih]
    rfl

theorem names_elements (pattern : String) (delimiter : Delimiter) :
    names (elements pattern delimiter) = placeholders pattern := by
  rw [elements, names_elementsOf, placeholderChars_segments, placeholders]

theorem elementsOf_accepted {delimiter : Delimiter} {segments : List (List Char)} {name : List Char}
    (member : .placeholder name ∈ elementsOf delimiter segments) : nameRule.accepts name = true := by
  have accepted (segment : List Char)
      (member : .placeholder name ∈ (Text.pieces nameRule segment).map Element.ofPiece) :
      nameRule.accepts name = true := by
    obtain ⟨piece, inside, same⟩ := List.mem_map.mp member
    cases piece with
    | char own => cases same
    | placeholder other =>
      cases same
      exact Text.piecesFrom_accepted nameRule none segment inside
  fun_induction elementsOf delimiter segments with
  | case1 => cases member
  | case2 only => exact accepted only member
  | case3 first rest _ ih =>
    rcases List.mem_append.mp member with early | late
    · exact accepted first early
    · exact ih (by simpa using late)

theorem firstRepeated_eq_none_iff {seen names : List String} :
    firstRepeated seen names = none ↔ names.Nodup ∧ ∀ name ∈ names, name ∉ seen := by
  induction names generalizing seen with
  | nil => simp [firstRepeated]
  | cons name rest ih =>
    rw [firstRepeated, List.nodup_cons, List.forall_mem_cons]
    by_cases known : name ∈ seen
    · simp [known]
    · rw [if_neg (by simpa using known), ih]
      constructor
      · intro ⟨distinct, fresh⟩
        have once : name ∉ rest := fun again => fresh name again (.head _)
        exact ⟨⟨once, distinct⟩, known, fun other member earlier => fresh other member (.tail _ earlier)⟩
      · intro ⟨⟨once, distinct⟩, _, fresh⟩
        refine ⟨distinct, ?_⟩
        intro other member earlier
        rcases List.mem_cons.mp earlier with rfl | earlier
        · exact once member
        · exact fresh other member earlier

/-- What a pattern has to be like to pass its check. -/
theorem check_eq_ok_iff {pattern : String} {delimiter : Delimiter} :
    check pattern delimiter = .ok () ↔
      Text.trim pattern.toList ≠ [] ∧ delimiter.other.char ∉ pattern.toList ∧ (placeholders pattern).Nodup := by
  have distinct : firstRepeated [] (placeholders pattern) = none ↔ (placeholders pattern).Nodup := by
    simp [firstRepeated_eq_none_iff]
  rw [check, ← distinct]
  split
  next blank => simp [List.isEmpty_iff.mp blank]
  next filled =>
    split
    next foreign => simp [List.contains_iff_mem.mp foreign]
    next known =>
      rw [List.isEmpty_iff] at filled
      rw [List.contains_iff_mem] at known
      cases firstRepeated [] (placeholders pattern) <;> simp [filled, known]

theorem placeholders_nodup {pattern : String} {delimiter : Delimiter}
    (checked : check pattern delimiter = .ok ()) : (placeholders pattern).Nodup :=
  (check_eq_ok_iff.mp checked).2.2

end TextScenario.Pattern
