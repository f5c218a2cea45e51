import Mathlib.Data.List.TakeWhile
import TextScenario.Text.Blank
import TextScenario.Text.Lines

/-! Trimmed text is known by its two ends, and lines that are written one after another are the
lines that are read. -/

namespace TextScenario.Text

@[simp] theorem trimRight_nil : trimRight [] = [] := rfl

private theorem trimRight_length_le (text : List Char) : (trimRight text).length ≤ text.length := by
  induction text with
  | nil => exact Nat.le_refl _
  | cons char rest ih =>
    simp only [trimRight]
    split
    · split <;> simp
    next kept =>
      simp only [List.length_cons]
      omega

theorem trimRight_append (left : List Char) {right : List Char} (kept : trimRight right ≠ []) :
    trimRight (left ++ right) = left ++ trimRight right := by
  induction left with
  | nil => rfl
  | cons char rest ih =>
    have nonempty : rest ++ trimRight right ≠ [] := by simp [kept]
    rw [List.cons_append, trimRight, ih]
    split
    next empty => exact absurd empty nonempty
    next => rfl

theorem trimRight_blank (text : List Char) {char : Char} (blank : isBlank char = true) :
    trimRight (text ++ [char]) = trimRight text := by
  induction text with
  | nil => simp [trimRight, blank]
  | cons first rest ih => rw [List.cons_append, trimRight, ih, trimRight]

theorem trimRight_solid (text : List Char) {char : Char} (solid : isBlank char = false) :
    trimRight (text ++ [char]) = text ++ [char] := by
  have single : trimRight [char] = [char] := by simp [trimRight, solid]
  rw [trimRight_append text (by simp [single]), single]

theorem trimRight_eq_self_iff {text : List Char} :
    trimRight text = text ↔ ∀ char ∈ text.getLast?, isBlank char = false := by
  rcases List.eq_nil_or_concat text with rfl | ⟨rest, last, rfl⟩
  · simp
  · cases blank : isBlank last with
    | false => simp [trimRight_solid rest blank, blank]
    | true =>
      have shorter := trimRight_length_le rest
      have changed : trimRight (rest ++ [last]) ≠ rest ++ [last] := by
        intro same
        rw [trimRight_blank rest blank] at same
        rw [same, List.length_append, List.length_singleton] at shorter
        omega
      simp [changed, blank]

theorem trimLeft_eq_self_iff {text : List Char} :
    trimLeft text = text ↔ ∀ char ∈ text.head?, isBlank char = false := by
  cases text with
  | nil => simp [trimLeft]
  | cons first rest =>
    cases blank : isBlank first with
    | false => simp [trimLeft, blank]
    | true =>
      have shorter := (List.dropWhile_suffix isBlank (l := rest)).length_le
      have changed : trimLeft (first :: rest) ≠ first :: rest := by
        intro same
        rw [trimLeft, List.dropWhile_cons, blank, if_pos rfl] at same
        rw [same, List.length_cons] at shorter
        omega
      simp [changed, blank]

theorem trim_eq_self_iff {text : List Char} :
    trim text = text ↔
      (∀ char ∈ text.head?, isBlank char = false) ∧ ∀ char ∈ text.getLast?, isBlank char = false := by
  rw [← trimLeft_eq_self_iff, ← trimRight_eq_self_iff, trim]
  constructor
  · intro same
    have shorter := trimRight_length_le (trimLeft text)
    have suffix : trimLeft text <:+ text := List.dropWhile_suffix isBlank
    have left : trimLeft text = text := suffix.eq_of_length_le (by rwa [same] at shorter)
    exact ⟨left, by rwa [left] at same⟩
  · rintro ⟨left, right⟩
    rw [left, right]

theorem trim_cons_blank (text : List Char) {char : Char} (blank : isBlank char = true) :
    trim (char :: text) = trim text := by
  simp [trim, trimLeft, blank]

theorem trim_concat_blank (text : List Char) {char : Char} (blank : isBlank char = true) :
    trim (text ++ [char]) = trim text := by
  simp only [trim, trimLeft, List.dropWhile_append]
  split
  next allBlank =>
    have empty : text.dropWhile isBlank = [] := by simpa using allBlank
    simp [empty, blank]
  next => exact trimRight_blank _ blank

private theorem trimRight_prefix (text : List Char) : trimRight text <+: text := by
  induction text with
  | nil => exact List.prefix_rfl
  | cons char rest ih =>
    rw [trimRight]
    split
    · split
      · exact List.nil_prefix
      · exact List.prefix_cons_inj char |>.mpr List.nil_prefix
    · exact List.prefix_cons_inj char |>.mpr ih

private theorem trimRight_trimRight (text : List Char) : trimRight (trimRight text) = trimRight text := by
  induction text with
  | nil => rfl
  | cons char rest ih =>
    rw [trimRight]
    split
    · split
      · rfl
      next solid => simp [trimRight, solid]
    next kept =>
      rw [trimRight, ih]
      split
      next empty => exact absurd empty kept
      next => rfl

private theorem trimLeft_head (text : List Char) : ∀ char ∈ (trimLeft text).head?, isBlank char = false := by
  intro char first
  have solid := List.head?_dropWhile_not isBlank text
  rw [show (text.dropWhile isBlank).head? = some char from first] at solid
  simpa using solid

theorem trim_trim (text : List Char) : trim (trim text) = trim text := by
  have left : trimLeft (trim text) = trim text := by
    refine trimLeft_eq_self_iff.mpr ?_
    intro char first
    refine trimLeft_head text char ?_
    obtain ⟨rest, same⟩ := trimRight_prefix (trimLeft text)
    rw [← same, List.head?_append]
    simp [show (trimRight (trimLeft text)).head? = some char from first]
  rw [trim, left, trim, trimRight_trimRight]

theorem trim_ne_nil {text : List Char} (nonempty : text ≠ [])
    (solid : ∀ char ∈ text.head?, isBlank char = false) : trim text ≠ [] := by
  obtain ⟨first, rest, rfl⟩ := List.exists_cons_of_ne_nil nonempty
  have kept : trimLeft (first :: rest) = first :: rest := trimLeft_eq_self_iff.mpr solid
  have solid : isBlank first = false := by simpa using solid
  rw [trim, kept, trimRight]
  split
  · simp [solid]
  · simp

theorem trim_eq_nil_iff {text : List Char} : trim text = [] ↔ ∀ char ∈ text, isBlank char = true := by
  constructor
  · intro empty
    refine List.dropWhile_eq_nil_iff.mp (Classical.byContradiction fun kept => ?_)
    have solid := trimLeft_head text
    have nonempty := trim_ne_nil kept solid
    rw [trim, show trimLeft (text.dropWhile isBlank) = trimLeft text from trimLeft_eq_self_iff.mpr solid]
      at nonempty
    exact nonempty empty
  · intro blank
    rw [trim, trimLeft, List.dropWhile_eq_nil_iff.mpr blank]
    rfl

theorem trim_concat_solid (text : List Char) {char : Char} (solid : isBlank char = false) :
    trim (text ++ [char]) ≠ [] := by
  have ends : ∃ kept, trimLeft (text ++ [char]) = kept ++ [char] := by
    rw [trimLeft, List.dropWhile_append]
    split
    · exact ⟨[], by simp [solid]⟩
    · exact ⟨_, rfl⟩
  obtain ⟨kept, same⟩ := ends
  rw [trim, same, trimRight_solid kept solid]
  simp

theorem dropReturn_concat (text : List Char) : dropReturn (text ++ ['\r']) = text := by
  induction text with
  | nil => rfl
  | cons char rest ih =>
    have more : rest ++ ['\r'] ≠ [] := by simp
    obtain ⟨next, others, found⟩ := List.exists_cons_of_ne_nil more
    rw [List.cons_append, found, dropReturn, ← found, ih]
    simp

theorem dropReturn_of_getLast? {line : List Char} (ended : line.getLast? ≠ some '\r') :
    dropReturn line = line := by
  induction line with
  | nil => rfl
  | cons char rest ih =>
    cases rest with
    | nil =>
      have other : char ≠ '\r' := by simpa using ended
      simp [dropReturn, other]
    | cons next rest =>
      rw [dropReturn, ih (by simpa using ended)]
      simp

theorem getLast?_ne_return {line : List Char} (trimmed : trim line = line) :
    line.getLast? ≠ some '\r' := by
  intro last
  exact absurd ((trim_eq_self_iff.mp trimmed).2 '\r' (by simp [last])) (by decide)

/-- The carriage return is a blank, so it makes no difference to trimmed text. -/
theorem trim_dropReturn (line : List Char) : trim (dropReturn line) = trim line := by
  by_cases ended : line.getLast? = some '\r'
  · obtain ⟨text, rfl⟩ := List.getLast?_eq_some_iff.mp ended
    rw [dropReturn_concat, trim_concat_blank text (by decide)]
  · rw [dropReturn_of_getLast? ended]

theorem dropReturn_of_trim {line : List Char} (trimmed : trim line = line) : dropReturn line = line :=
  dropReturn_of_getLast? (getLast?_ne_return trimmed)

theorem splitAt_ne_nil (separator : Char) (text : List Char) : splitAt separator text ≠ [] := by
  cases text with
  | nil => simp [splitAt]
  | cons char rest =>
    rw [splitAt]
    split
    · simp
    · split <;> simp

theorem splitAt_plain (separator : Char) (text : List Char) :
    ∀ piece ∈ splitAt separator text, separator ∉ piece := by
  induction text with
  | nil => simp [splitAt]
  | cons char rest ih =>
    rw [splitAt]
    split
    next => simpa using ih
    next other =>
      obtain ⟨piece, pieces, found⟩ := List.exists_cons_of_ne_nil (splitAt_ne_nil separator rest)
      rw [found] at ih ⊢
      intro longer inside
      rcases List.mem_cons.mp inside with rfl | later
      · simp [Ne.symm other, ih piece]
      · exact ih longer (.tail _ later)

theorem forall_splitAt_iff {separator : Char} {holds : Char → Prop} {text : List Char} :
    (∀ piece ∈ splitAt separator text, ∀ char ∈ piece, holds char) ↔
      ∀ char ∈ text, char = separator ∨ holds char := by
  induction text with
  | nil => simp [splitAt]
  | cons char rest ih =>
    rw [splitAt, List.forall_mem_cons, ← ih]
    split
    next same => simp [same]
    next other =>
      obtain ⟨piece, pieces, found⟩ := List.exists_cons_of_ne_nil (splitAt_ne_nil separator rest)
      simp [found, other, and_assoc]

theorem splitAt_eq_singleton_nil {separator : Char} {text : List Char}
    (single : splitAt separator text = [[]]) : text = [] := by
  cases text with
  | nil => rfl
  | cons char rest =>
    rw [splitAt] at single
    split at single
    · simp [splitAt_ne_nil] at single
    · split at single <;> simp at single

/-- The pieces with the separator before each but the first are the whole text. -/
theorem splitAt_flatMap (separator : Char) (text : List Char) {first : List Char}
    {rest : List (List Char)} (split : splitAt separator text = first :: rest) :
    first ++ rest.flatMap (separator :: ·) = text := by
  induction text generalizing first rest with
  | nil =>
    cases split
    rfl
  | cons char text ih =>
    obtain ⟨piece, pieces, found⟩ := List.exists_cons_of_ne_nil (splitAt_ne_nil separator text)
    have joined := ih found
    rw [splitAt, found] at split
    split at split
    next same =>
      cases split
      simp [same, joined]
    next =>
      cases split
      simp [joined]

theorem joinWith_eq_nil_iff {separator : Char} {pieces : List (List Char)} :
    joinWith separator pieces = [] ↔ pieces = [] ∨ pieces = [[]] := by
  fun_cases joinWith separator pieces with
  | case1 => simp
  | case2 only => simp
  | case3 first rest more =>
    have more : rest ≠ [] := more
    simp [more]

theorem splitAt_absent {separator : Char} {text : List Char} (absent : separator ∉ text) :
    splitAt separator text = [text] := by
  induction text with
  | nil => rfl
  | cons char rest ih =>
    have other : char ≠ separator := fun same => absent (by simp [same])
    rw [splitAt, if_neg other, ih (fun member => absent (.tail _ member))]

theorem splitAt_append {separator : Char} {piece : List Char} (absent : separator ∉ piece)
    (rest : List Char) :
    splitAt separator (piece ++ separator :: rest) = piece :: splitAt separator rest := by
  induction piece with
  | nil => simp [splitAt]
  | cons char piece ih =>
    have other : char ≠ separator := fun same => absent (by simp [same])
    have later : separator ∉ piece := fun member => absent (by simp [member])
    rw [List.cons_append, splitAt, if_neg other, ih later]

theorem splitAt_separated (separator : Char) (before after : List Char) :
    splitAt separator (before ++ separator :: after) =
      splitAt separator before ++ splitAt separator after := by
  induction before with
  | nil => simp [splitAt]
  | cons char before ih =>
    obtain ⟨piece, pieces, found⟩ := List.exists_cons_of_ne_nil (splitAt_ne_nil separator before)
    rw [List.cons_append, splitAt, splitAt, ih, found]
    split <;> rfl

/-- A character that is no separator joins the piece before it to the one after it. -/
theorem splitAt_join {separator char : Char} (other : char ≠ separator) (before after : List Char) :
    ∃ earlier piece more rest, splitAt separator before = earlier ++ [piece] ∧
      splitAt separator after = more :: rest ∧
      splitAt separator (before ++ char :: after) = earlier ++ (piece ++ char :: more) :: rest := by
  obtain ⟨more, rest, found⟩ := List.exists_cons_of_ne_nil (splitAt_ne_nil separator after)
  induction before with
  | nil => exact ⟨[], [], more, rest, rfl, found, by rw [List.nil_append, splitAt, if_neg other, found]; rfl⟩
  | cons first before ih =>
    obtain ⟨earlier, piece, _, _, left, right, joined⟩ := ih
    cases right.symm.trans found
    by_cases ends : first = separator
    · refine ⟨[] :: earlier, piece, more, rest, ?_, found, ?_⟩
      · rw [splitAt, if_pos ends, left, List.cons_append]
      · rw [List.cons_append, splitAt, if_pos ends, joined, List.cons_append]
    · cases earlier with
      | nil =>
        refine ⟨[], first :: piece, more, rest, ?_, found, ?_⟩
        · rw [splitAt, if_neg ends, left]
          rfl
        · rw [List.cons_append, splitAt, if_neg ends, joined]
          rfl
      | cons head earlier =>
        refine ⟨(first :: head) :: earlier, piece, more, rest, ?_, found, ?_⟩
        · rw [splitAt, if_neg ends, left]
          rfl
        · rw [List.cons_append, splitAt, if_neg ends, joined]
          rfl

private theorem splitAt_ended {separator : Char} {pieces : List (List Char)}
    (absent : ∀ piece ∈ pieces, separator ∉ piece) :
    splitAt separator (pieces.flatMap (· ++ [separator])) = pieces ++ [[]] := by
  induction pieces with
  | nil => rfl
  | cons piece pieces ih =>
    have rest := ih fun other member => absent other (by simp [member])
    rw [List.flatMap_cons, List.append_assoc, List.singleton_append,
      splitAt_append (absent piece (by simp)), rest, List.cons_append]

/-- Lines that are each ended by a line break are read as they were written. -/
theorem lines_ended {written : List (List Char)} (oneLine : ∀ line ∈ written, '\n' ∉ line)
    (noReturn : ∀ line ∈ written, line.getLast? ≠ some '\r') :
    lines (written.flatMap (· ++ ['\n'])) = written := by
  have unchanged : written.map dropReturn = written := by
    rw [List.map_congr_left fun line member => dropReturn_of_getLast? (noReturn line member)]
    exact List.map_id _
  simp only [lines, splitAt_ended oneLine, List.getLast?_append, List.getLast?_singleton,
    Option.some_or, List.dropLast_concat, unchanged]

theorem lines_concat (text : List Char) :
    lines (text ++ ['\n']) = (splitAt '\n' text).map dropReturn := by
  simp [lines, splitAt_separated, splitAt]

/-- Lines go on behind a text that ends with a line break. -/
theorem lines_append (text rest : List Char) :
    lines (text ++ '\n' :: rest) = lines (text ++ ['\n']) ++ lines rest := by
  have pieces := splitAt_ne_nil '\n' rest
  have last : (splitAt '\n' text ++ splitAt '\n' rest).getLast? = (splitAt '\n' rest).getLast? := by
    rw [List.getLast?_append, List.getLast?_eq_some_getLast pieces, Option.some_or]
  rw [lines_concat]
  simp only [lines, splitAt_separated, List.dropLast_append_of_ne_nil pieces, last, List.map_append]
  split <;> simp

end TextScenario.Text
