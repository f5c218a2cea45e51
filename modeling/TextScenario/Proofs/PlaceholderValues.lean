import Mathlib.Algebra.Group.Nat.Even
import TextScenario.Proofs.EnvironmentValues

/-! Which placeholders get their values. Names that adjoin each other share percent signs, and each sign
is used once, from left to right, whether the variable has a value or not. So a placeholder gets its
value exactly if an even number of names adjoins it on the left; all other text is copied. -/

namespace TextScenario.Environment

/-- Whether a variable is set to some text. -/
def Gives (environment : Environment) (name : List Char) (value : String) : Prop :=
  environment.get? (String.ofList name) = some value ∧ value ≠ ""

/-- A stretch of text that is copied, or a placeholder that gets its value. -/
inductive Fragment where
  | copied (text : List Char)
  | filled (name : List Char) (value : String)

namespace Fragment

def source : Fragment → List Char
  | .copied text => text
  | .filled name _ => '%' :: name ++ ['%']

def shown : Fragment → List Char
  | .copied text => text
  | .filled _ value => value.toList

end Fragment

/-- How many names stand directly one after another at the end. -/
def trailingNames (pieces : List (List Char)) : Nat :=
  (pieces.reverse.takeWhile isName).length

/-- How many names adjoin the end of a text, each of them after a percent sign. -/
def adjoining (before : List Char) : Nat :=
  trailingNames (Text.splitAt '%' before).tail

/-- A text in fragments. They are its source in order, and what they show is the result. -/
structure Fills (environment : Environment) (text result : List Char) (fragments : List Fragment) :
    Prop where
  source : fragments.flatMap Fragment.source = text
  shown : fragments.flatMap Fragment.shown = result
  given : ∀ name value, .filled name value ∈ fragments →
    isName name = true ∧ environment.Gives name value
  placed : ∀ before name after value, text = before ++ '%' :: name ++ '%' :: after →
    isName name = true → environment.Gives name value →
      ((∃ left right, fragments = left ++ .filled name value :: right ∧
        left.flatMap Fragment.source = before) ↔ Even (adjoining before))

section Fragments

variable (environment : Environment)

def placeholderFragment (name : List Char) : Fragment :=
  match environment.get? (String.ofList name) with
  | some value => if value.isEmpty then .copied ('%' :: name ++ ['%']) else .filled name value
  | none => .copied ('%' :: name ++ ['%'])

def pieceFragments : List (List Char) → List Fragment
  | [] => []
  | [last] => [.copied ('%' :: last)]
  | piece :: next :: rest =>
    if isName piece then
      environment.placeholderFragment piece :: .copied next :: pieceFragments rest
    else .copied ('%' :: piece) :: pieceFragments (next :: rest)

private theorem placeholderFragment_source (name : List Char) :
    (environment.placeholderFragment name).source = '%' :: name ++ ['%'] := by
  unfold placeholderFragment
  split
  · split <;> rfl
  · rfl

private theorem placeholderFragment_shown (name : List Char) :
    (environment.placeholderFragment name).shown = environment.replacement name := by
  rw [placeholderFragment, replacement]
  cases environment.get? (String.ofList name) with
  | none => rfl
  | some value =>
    dsimp only
    split <;> rfl

variable {environment}

private theorem Gives.placeholderFragment {name : List Char} {value : String}
    (gives : environment.Gives name value) :
    environment.placeholderFragment name = .filled name value := by
  have nonempty : value.isEmpty = false := by simpa using gives.2
  simp [Environment.placeholderFragment, gives.1, nonempty]

private theorem gives_of_placeholderFragment {name other : List Char} {value : String}
    (same : environment.placeholderFragment name = .filled other value) :
    other = name ∧ environment.Gives name value := by
  unfold placeholderFragment at same
  split at same
  next found given =>
    split at same
    next => cases same
    next nonempty =>
      cases same
      exact ⟨rfl, given, by simpa using nonempty⟩
  next => cases same

variable (environment)

private theorem pieceFragments_source (pieces : List (List Char)) :
    (environment.pieceFragments pieces).flatMap Fragment.source = pieces.flatMap ('%' :: ·) := by
  fun_induction pieceFragments environment pieces with
  | case1 => rfl
  | case2 last => rfl
  | case3 piece next rest _ ih =>
    rw [List.flatMap_cons, List.flatMap_cons, placeholderFragment_source, ih]
    simp [Fragment.source]
  | case4 piece next rest _ ih =>
    rw [List.flatMap_cons, ih]
    simp [Fragment.source]

private theorem pieceFragments_shown (pieces : List (List Char)) :
    (environment.pieceFragments pieces).flatMap Fragment.shown = environment.expandPieces pieces := by
  fun_induction pieceFragments environment pieces with
  | case1 => rfl
  | case2 last => simp [Fragment.shown, expandPieces]
  | case3 piece next rest name ih =>
    rw [List.flatMap_cons, List.flatMap_cons, placeholderFragment_shown, ih, expandPieces, if_pos name,
      List.append_assoc]
    rfl
  | case4 piece next rest other ih =>
    rw [List.flatMap_cons, ih, expandPieces, if_neg other]
    rfl

private theorem pieceFragments_given {pieces : List (List Char)} {name : List Char} {value : String}
    (member : .filled name value ∈ environment.pieceFragments pieces) :
    isName name = true ∧ environment.Gives name value := by
  fun_induction pieceFragments environment pieces with
  | case1 => cases member
  | case2 last => simp at member
  | case3 piece next rest accepted ih =>
    rcases List.mem_cons.mp member with same | later
    · obtain ⟨rfl, gives⟩ := gives_of_placeholderFragment same.symm
      exact ⟨accepted, gives⟩
    · exact ih (by simpa using later)
  | case4 piece next rest other ih => exact ih (by simpa using member)

end Fragments

private theorem trailingNames_le (pieces : List (List Char)) : trailingNames pieces ≤ pieces.length := by
  have shorter := (List.takeWhile_sublist isName (l := pieces.reverse)).length_le
  rwa [List.length_reverse] at shorter

theorem trailingNames_cons (piece : List Char) (pieces : List (List Char)) :
    trailingNames (piece :: pieces) =
      if trailingNames pieces = pieces.length ∧ isName piece = true then pieces.length + 1
      else trailingNames pieces := by
  rw [trailingNames, List.reverse_cons, List.takeWhile_append, List.length_reverse]
  by_cases all : trailingNames pieces = pieces.length
  · have all' : (pieces.reverse.takeWhile isName).length = pieces.length := all
    rw [if_pos all']
    cases named : isName piece <;> simp [named, all]
  · have some : ¬ (pieces.reverse.takeWhile isName).length = pieces.length := all
    rw [if_neg some, if_neg (fun both => all both.1)]
    rfl

private theorem even_trailingNames_pair {piece : List Char} (name : isName piece = true) (next : List Char)
    (rest : List (List Char)) :
    Even (trailingNames (piece :: next :: rest)) ↔ Even (trailingNames rest) := by
  have bound := trailingNames_le rest
  simp only [trailingNames_cons, name, and_true, List.length_cons]
  rw [Nat.even_iff, Nat.even_iff]
  split
  next =>
    split <;> omega
  next =>
    split <;> omega

private theorem trailingNames_other {piece : List Char} (other : isName piece = false)
    (pieces : List (List Char)) : trailingNames (piece :: pieces) = trailingNames pieces := by
  rw [trailingNames_cons, if_neg]
  simp [other]

private theorem name_of_odd {last : List Char} (odd : ¬ Even (trailingNames [last])) : isName last = true := by
  cases named : isName last with
  | true => rfl
  | false =>
    rw [trailingNames_other named] at odd
    exact absurd Even.zero odd

private theorem other_of_even {last : List Char} (even : Even (trailingNames [last])) :
    isName last = false := by
  cases named : isName last with
  | false => rfl
  | true =>
    have one : trailingNames [last] = 1 := by
      rw [trailingNames_cons, if_pos ⟨rfl, named⟩]
      rfl
    rw [one] at even
    exact absurd even Nat.not_even_one

section Placed

variable (environment : Environment)

/-- After an even number of adjoining names the next percent sign is free. -/
theorem pieceFragments_even {earlier : List (List Char)} (even : Even (trailingNames earlier))
    {name : List Char} (named : isName name = true) (next : List Char) (rest : List (List Char)) :
    environment.pieceFragments (earlier ++ name :: next :: rest) =
      environment.pieceFragments earlier ++
        environment.placeholderFragment name :: .copied next :: environment.pieceFragments rest := by
  fun_induction pieceFragments environment earlier with
  | case1 => rw [List.nil_append, pieceFragments, if_pos named, List.nil_append]
  | case2 last =>
    have other := other_of_even even
    rw [List.singleton_append, pieceFragments, if_neg (by simp [other]), pieceFragments,
      if_pos named, List.singleton_append]
  | case3 piece following others accepted ih =>
    rw [even_trailingNames_pair accepted] at even
    rw [List.cons_append, List.cons_append, pieceFragments, if_pos accepted, ih even,
      List.cons_append, List.cons_append]
  | case4 piece following others other ih =>
    rw [trailingNames_other (by simpa using other)] at even
    rw [List.cons_append, List.cons_append, pieceFragments, if_neg other, ← List.cons_append,
      ih even, List.cons_append]

private theorem pieceFragments_odd {earlier : List (List Char)} (odd : ¬ Even (trailingNames earlier))
    {pieces : List (List Char)} (more : pieces ≠ []) :
    ∃ left right, environment.pieceFragments (earlier ++ pieces) = left ++ right ∧
      left.flatMap Fragment.source = earlier.flatMap ('%' :: ·) ++ ['%'] := by
  obtain ⟨next, rest, rfl⟩ := List.exists_cons_of_ne_nil more
  fun_induction pieceFragments environment earlier with
  | case1 => exact absurd Even.zero odd
  | case2 last =>
    refine ⟨[environment.placeholderFragment last],
      .copied next :: environment.pieceFragments rest, ?_, ?_⟩
    · rw [List.singleton_append, pieceFragments, if_pos (name_of_odd odd), List.singleton_append]
    · simp [placeholderFragment_source]
  | case3 piece following others accepted ih =>
    rw [even_trailingNames_pair accepted] at odd
    obtain ⟨left, right, split, source⟩ := ih odd
    refine ⟨environment.placeholderFragment piece :: .copied following :: left, right, ?_, ?_⟩
    · rw [List.cons_append, List.cons_append, pieceFragments, if_pos accepted, split]
      rfl
    · rw [List.flatMap_cons, List.flatMap_cons, source, placeholderFragment_source]
      simp [Fragment.source]
  | case4 piece following others other ih =>
    rw [trailingNames_other (by simpa using other)] at odd
    obtain ⟨left, right, split, source⟩ := ih odd
    refine ⟨.copied ('%' :: piece) :: left, right, ?_, ?_⟩
    · rw [List.cons_append, List.cons_append, pieceFragments, if_neg other, ← List.cons_append, split]
      rfl
    · rw [List.flatMap_cons, source]
      simp [Fragment.source]

end Placed

/-- No fragment lies on both sides of a place at which the fragments were cut. -/
theorem not_across {left right first last : List Fragment} {fragment : Fragment}
    (same : left ++ fragment :: right = first ++ last)
    (after : (left.flatMap Fragment.source).length < (first.flatMap Fragment.source).length) :
    (left.flatMap Fragment.source).length + fragment.source.length ≤
      (first.flatMap Fragment.source).length := by
  rcases List.append_eq_append_iff.mp same with ⟨between, begun, rest⟩ | ⟨between, begun, rest⟩
  · rw [begun, List.flatMap_append, List.length_append] at after ⊢
    cases between with
    | nil => simp at after
    | cons head tail =>
      cases rest
      rw [List.flatMap_cons, List.length_append]
      omega
  · rw [begun, List.flatMap_append, List.length_append] at after
    omega

private theorem percent_not_mem {name : List Char} (named : isName name = true) : '%' ∉ name := by
  intro member
  rw [isName, Bool.and_eq_true, List.all_eq_true] at named
  exact absurd (named.2 _ member) (by decide +kernel)

/-- Every text is filled in fragment by fragment, and which placeholders get their values is known from
the text before them. -/
theorem expand_fills (environment : Environment) (text : String) :
    ∃ fragments, environment.Fills text.toList (environment.expand text).toList fragments := by
  obtain ⟨first, pieces, split⟩ :=
    List.exists_cons_of_ne_nil (Text.splitAt_ne_nil '%' text.toList)
  refine ⟨.copied first :: environment.pieceFragments pieces, ?_, ?_, ?_, ?_⟩
  · rw [List.flatMap_cons, pieceFragments_source]
    exact Text.splitAt_flatMap '%' text.toList split
  · rw [expand, String.toList_ofList, expandChars, split, List.flatMap_cons, pieceFragments_shown]
    rfl
  · intro name value member
    exact environment.pieceFragments_given (by simpa using member)
  · intro before name after value whole named gives
    obtain ⟨start, earlier, cut⟩ := List.exists_cons_of_ne_nil (Text.splitAt_ne_nil '%' before)
    obtain ⟨next, rest, later⟩ := List.exists_cons_of_ne_nil (Text.splitAt_ne_nil '%' after)
    have joined := Text.splitAt_flatMap '%' before cut
    have read : Text.splitAt '%' text.toList = start :: (earlier ++ name :: next :: rest) := by
      rw [whole, List.append_assoc, List.cons_append, Text.splitAt_separated, cut,
        Text.splitAt_append (percent_not_mem named), later, List.cons_append]
    rw [split] at read
    cases read
    have counted : adjoining before = trailingNames earlier := by rw [adjoining, cut, List.tail_cons]
    rw [counted]
    constructor
    · rintro ⟨left, right, same, source⟩
      by_contra odd
      obtain ⟨begun, others, parted, ended⟩ :=
        environment.pieceFragments_odd odd (List.cons_ne_nil name (next :: rest))
      have ended : (Fragment.copied first :: begun).flatMap Fragment.source = before ++ ['%'] := by
        rw [List.flatMap_cons, ended, ← List.append_assoc]
        exact congrArg (· ++ ['%']) joined
      rw [parted, ← List.cons_append] at same
      have across := not_across same.symm (by rw [source, ended]; simp)
      rw [source, ended] at across
      simp [Fragment.source] at across
    · intro even
      refine ⟨.copied first :: environment.pieceFragments earlier,
        .copied next :: environment.pieceFragments rest, ?_, ?_⟩
      · rw [environment.pieceFragments_even even named, gives.placeholderFragment, List.cons_append]
      · rw [List.flatMap_cons, pieceFragments_source]
        exact joined

/-- The sign between the two names is used by the one that has no value. -/
private def oneValue : Environment := ⟨[("B", "x")]⟩

theorem expand_hidden :
    oneValue.Gives ['B'] "x" ∧ oneValue.get? "A" = none ∧ oneValue.expand "%A%B%" ≠ "%Ax" :=
  ⟨⟨rfl, by decide⟩, rfl, by decide +kernel⟩

end TextScenario.Environment
