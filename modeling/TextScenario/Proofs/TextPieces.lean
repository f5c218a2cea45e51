import TextScenario.Text.Braced

/-! Pieces of a text beside the text itself. Put together again they are the text, and the placeholders
among them are all the accepted names that stand in braces in it. -/

namespace TextScenario.Text

private theorem piecesFrom_source (rule : NameRule) (pending : Option (List Char)) (text : List Char) :
    (piecesFrom rule pending text).flatMap Piece.source =
      pending.elim text fun read => '{' :: read.reverse ++ text := by
  have single (read : List Char) : (read.map Piece.char).flatMap Piece.source = read := by
    rw [List.flatMap_map]
    exact List.flatMap_singleton' read
  fun_induction piecesFrom rule pending text with
  | case1 => rfl
  | case2 pending =>
    rw [List.flatMap_cons, single]
    exact (List.append_nil _).symm
  | case3 rest ih => exact ih
  | case4 first rest other ih =>
    rw [List.flatMap_cons, ih]
    rfl
  | case5 first rest pending closed ih =>
    rw [List.flatMap_cons, ih, closed.1]
    simp [Piece.source]
  | case6 first rest pending unclosed member ih =>
    rw [ih]
    simp
  | case7 first rest pending unclosed foreign ih1 ih2 =>
    rw [List.flatMap_append, List.flatMap_cons, single]
    split
    next opened =>
      rw [ih1, opened]
      rfl
    next =>
      rw [List.flatMap_cons, ih2]
      rfl

theorem pieces_source (rule : NameRule) (text : List Char) :
    (pieces rule text).flatMap Piece.source = text :=
  piecesFrom_source rule none text

theorem piecesFrom_accepted (rule : NameRule) (pending : Option (List Char)) (text : List Char)
    {name : List Char} (member : .placeholder name ∈ piecesFrom rule pending text) :
    rule.accepts name = true := by
  fun_induction piecesFrom rule pending text with
  | case1 => cases member
  | case2 pending => simp at member
  | case3 rest ih => exact ih member
  | case4 first rest other ih => exact ih (by simpa using member)
  | case5 first rest pending closed ih =>
    rcases List.mem_cons.mp member with same | later
    · cases same
      exact closed.2
    · exact ih later
  | case6 first rest pending unclosed inside ih => exact ih member
  | case7 first rest pending unclosed foreign ih1 ih2 =>
    split at member
    · exact ih1 (by simpa using member)
    · exact ih2 (by simpa using member)

private theorem piecesFrom_within (rule : NameRule) (pending : List Char) (char : Char) (rest : List Char) :
    piecesFrom rule (some pending) (char :: rest) =
      if char = '}' ∧ rule.accepts pending.reverse then
        .placeholder pending.reverse :: piecesFrom rule none rest
      else if rule.member char then piecesFrom rule (some (char :: pending)) rest
      else .char '{' :: pending.reverse.map .char ++ piecesFrom rule none (char :: rest) := by
  rw [piecesFrom, piecesFrom]

variable {rule : NameRule}

theorem NameRule.member_of_accepts {name : List Char} (accepted : rule.accepts name = true) {char : Char}
    (inside : char ∈ name) : rule.member char = true := by
  cases name with
  | nil => cases inside
  | cons first rest => exact List.all_eq_true.mp (Bool.and_eq_true_iff.mp accepted).2 char inside

/-- A character that can neither be in a name nor end a placeholder is read afresh. -/
theorem piecesFrom_fresh {char : Char} (foreign : rule.member char = false) (noClose : char ≠ '}')
    (pending : Option (List Char)) (before after : List Char) :
    piecesFrom rule pending (before ++ char :: after) =
      piecesFrom rule pending before ++ piecesFrom rule none (char :: after) := by
  fun_induction piecesFrom rule pending before with
  | case1 => rfl
  | case2 pending =>
    have unclosed : ¬ (char = '}' ∧ rule.accepts pending.reverse = true) := fun found =>
      noClose found.1
    rw [List.nil_append, piecesFrom_within, if_neg unclosed, if_neg (by simp [foreign]), piecesFrom]
  | case3 rest ih => rw [List.cons_append, piecesFrom, if_pos rfl, ih]
  | case4 first rest other ih => rw [List.cons_append, piecesFrom, if_neg other, ih, List.cons_append]
  | case5 first rest pending closed ih =>
    rw [List.cons_append, piecesFrom_within, if_pos closed, ih, List.cons_append]
  | case6 first rest pending unclosed member ih =>
    rw [List.cons_append, piecesFrom_within, if_neg unclosed, if_pos member, ih]
  | case7 first rest pending unclosed other ih1 ih2 =>
    rw [List.cons_append, piecesFrom_within, if_neg unclosed, if_neg other, List.append_assoc, piecesFrom]
    split
    · rw [ih1]
    · rw [ih2]
      rfl

theorem piecesFrom_plain {text : List Char} (plain : '{' ∉ text) (rest : List Char) :
    piecesFrom rule none (text ++ rest) = text.map .char ++ piecesFrom rule none rest := by
  induction text with
  | nil => rfl
  | cons char text ih =>
    rw [List.mem_cons, not_or] at plain
    rw [List.cons_append, piecesFrom, if_neg (Ne.symm plain.1), ih plain.2]
    rfl

/-- Members up to a close brace are a name, with those that were read before. -/
theorem piecesFrom_name (noClose : rule.member '}' = false) {pending name : List Char}
    (accepted : rule.accepts (pending.reverse ++ name) = true) (after : List Char) :
    piecesFrom rule (some pending) (name ++ '}' :: after) =
      .placeholder (pending.reverse ++ name) :: piecesFrom rule none after := by
  induction name generalizing pending with
  | nil =>
    rw [List.append_nil] at accepted ⊢
    rw [List.nil_append, piecesFrom, if_pos ⟨rfl, accepted⟩]
  | cons first name ih =>
    have joined : (first :: pending).reverse ++ name = pending.reverse ++ first :: name := by simp
    have member : rule.member first = true := NameRule.member_of_accepts accepted (by simp)
    have unclosed : ¬ (first = '}' ∧ rule.accepts pending.reverse = true) := by
      rintro ⟨rfl, _⟩
      rw [noClose] at member
      cases member
    rw [List.cons_append, piecesFrom, if_neg unclosed, if_pos member, ih (by rwa [joined]), joined]

/-- The placeholders of a text are the accepted names that stand in braces in it. -/
theorem placeholder_mem_pieces_iff (noOpen : rule.member '{' = false) (noClose : rule.member '}' = false)
    {name text : List Char} :
    .placeholder name ∈ pieces rule text ↔
      rule.accepts name = true ∧ ∃ before after, text = before ++ '{' :: (name ++ '}' :: after) := by
  constructor
  · intro member
    refine ⟨piecesFrom_accepted rule none text member, ?_⟩
    obtain ⟨earlier, later, split⟩ := List.append_of_mem member
    refine ⟨earlier.flatMap Piece.source, later.flatMap Piece.source, ?_⟩
    rw [← pieces_source rule text, split, List.flatMap_append, List.flatMap_cons]
    simp [Piece.source]
  · rintro ⟨accepted, before, after, rfl⟩
    have read : piecesFrom rule (some []) (name ++ '}' :: after) =
        .placeholder name :: piecesFrom rule none after :=
      @piecesFrom_name rule noClose [] name accepted after
    rw [pieces, piecesFrom_fresh noOpen (by decide), piecesFrom, if_pos rfl, read]
    simp

end TextScenario.Text
