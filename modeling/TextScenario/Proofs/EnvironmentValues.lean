import TextScenario.Environment
import TextScenario.Proofs.TextLines

/-! Putting values in never makes text disappear, because an empty value is not put in. Without
variables all text stays as it is. -/

namespace TextScenario.Environment

theorem replacement_ne_nil (environment : Environment) (name : List Char) :
    environment.replacement name ≠ [] := by
  unfold replacement
  split
  next value _ =>
    split
    · simp
    next filled =>
      intro empty
      apply filled
      rw [String.isEmpty_iff]
      exact String.toList_eq_nil_iff.mp empty
  · simp

theorem expandPieces_ne_nil (environment : Environment) {pieces : List (List Char)}
    (nonempty : pieces ≠ []) : environment.expandPieces pieces ≠ [] := by
  cases pieces with
  | nil => exact absurd rfl nonempty
  | cons piece rest =>
    cases rest with
    | nil => simp [expandPieces]
    | cons next rest =>
      rw [expandPieces]
      split
      · simp [replacement_ne_nil]
      · simp

theorem expandChars_ne_nil (environment : Environment) {text : List Char} (nonempty : text ≠ []) :
    environment.expandChars text ≠ [] := by
  unfold expandChars
  split
  next none => exact absurd none (Text.splitAt_ne_nil '%' text)
  next first rest split =>
    cases rest with
    | nil =>
      intro empty
      have blank : first = [] := by simpa [expandPieces] using empty
      exact nonempty (Text.splitAt_eq_singleton_nil (blank ▸ split))
    | cons piece rest => simp [expandPieces_ne_nil]

theorem expandChars_eq_nil_iff (environment : Environment) {text : List Char} :
    environment.expandChars text = [] ↔ text = [] := by
  constructor
  · intro empty
    apply Classical.byContradiction
    intro nonempty
    exact environment.expandChars_ne_nil nonempty empty
  · rintro rfl
    rfl

theorem expandPieces_empty (pieces : List (List Char)) :
    empty.expandPieces pieces = pieces.flatMap ('%' :: ·) := by
  fun_induction expandPieces empty pieces with
  | case1 => rfl
  | case2 last => simp
  | case3 piece next rest name ih =>
    have kept : empty.replacement piece = '%' :: piece ++ ['%'] := rfl
    simp [ih, kept]
  | case4 piece next rest other ih => simp [ih]

theorem expandChars_empty (text : List Char) : empty.expandChars text = text := by
  unfold expandChars
  split
  next none => exact absurd none (Text.splitAt_ne_nil '%' text)
  next first rest split => rw [expandPieces_empty, Text.splitAt_flatMap '%' text split]

/-- What the piece after the earlier ones goes on with is kept, if it is kept on its own and behind a name. -/
private theorem expandPieces_extend (environment : Environment) (earlier : List (List Char))
    {piece longer tail : List Char} {rest : List (List Char)}
    (alone : environment.expandPieces (longer :: rest) = '%' :: piece ++ tail)
    (behind : longer ++ environment.expandPieces rest = piece ++ tail) :
    environment.expandPieces (earlier ++ longer :: rest) =
      environment.expandPieces (earlier ++ [piece]) ++ tail := by
  fun_induction expandPieces environment earlier with
  | case1 => exact alone
  | case2 last =>
    rw [List.singleton_append, List.singleton_append, expandPieces, expandPieces, alone]
    split <;> simp [expandPieces, behind]
  | case3 first next others name ih =>
    rw [List.cons_append, List.cons_append, List.cons_append, List.cons_append, expandPieces,
      expandPieces, if_pos name, if_pos name, ih]
    simp
  | case4 first next others otherwise ih =>
    rw [List.cons_append, List.cons_append, List.cons_append, List.cons_append, expandPieces,
      expandPieces, if_neg otherwise, if_neg otherwise, ← List.cons_append, ih, List.cons_append]
    simp

private theorem expandPieces_break (environment : Environment) (earlier : List (List Char)) (piece : List Char) {char : Char}
    (other : Text.isWord char = false) (more : List Char) (rest : List (List Char)) :
    environment.expandPieces (earlier ++ (piece ++ char :: more) :: rest) =
      environment.expandPieces (earlier ++ [piece]) ++ char :: more ++
        environment.expandPieces rest := by
  have noName : ¬ isName (piece ++ char :: more) = true := by simp [isName, other]
  have alone : environment.expandPieces ((piece ++ char :: more) :: rest) =
      '%' :: piece ++ (char :: more ++ environment.expandPieces rest) := by
    cases rest with
    | nil => simp [expandPieces]
    | cons next rest =>
      rw [expandPieces, if_neg noName]
      simp
  rw [List.append_assoc]
  exact environment.expandPieces_extend earlier alone (List.append_assoc ..)

/-- A character that can be no part of a placeholder stands between texts that are filled in apart. -/
theorem expandChars_break (environment : Environment) {char : Char}
    (other : Text.isWord char = false) (noSign : char ≠ '%') (before after : List Char) :
    environment.expandChars (before ++ char :: after) =
      environment.expandChars before ++ char :: environment.expandChars after := by
  obtain ⟨earlier, piece, more, rest, left, right, joined⟩ := Text.splitAt_join noSign before after
  rw [expandChars, expandChars, expandChars, left, right, joined]
  cases earlier with
  | nil => simp [expandPieces]
  | cons first earlier =>
    have broken := environment.expandPieces_break earlier piece other more rest
    simp only [List.cons_append, broken, List.append_assoc]

private theorem expandPieces_concat (environment : Environment) (earlier : List (List Char)) (last : List Char)
    (char : Char) : environment.expandPieces (earlier ++ [last ++ [char]]) =
      environment.expandPieces (earlier ++ [last]) ++ [char] := by
  apply environment.expandPieces_extend earlier
  · rw [expandPieces, List.cons_append]
  · rw [expandPieces, List.append_nil]

theorem expandChars_concat (environment : Environment) (text : List Char) {char : Char}
    (noSign : char ≠ '%') : environment.expandChars (text ++ [char]) =
      environment.expandChars text ++ [char] := by
  obtain ⟨earlier, piece, more, rest, left, right, joined⟩ := Text.splitAt_join noSign text []
  cases right
  rw [expandChars, expandChars, left, joined]
  cases earlier with
  | nil => simp [expandPieces]
  | cons first earlier =>
    have longer := environment.expandPieces_concat earlier piece char
    simp only [List.cons_append, longer, List.append_assoc]

end TextScenario.Environment
