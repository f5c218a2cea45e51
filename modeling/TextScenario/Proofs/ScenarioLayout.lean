import Mathlib.Data.List.Induction
import Mathlib.Logic.Relation
import TextScenario.Proofs.ScenarioConcatenation

/-! Layout makes no difference to what is read. A text can be written with or without carriage returns,
and outside blocks blank lines and blanks at the ends of lines can come and go. -/

namespace TextScenario.Scenario
open Text

/-- What stands between the line breaks of a text. -/
def rows (content : String) : List (List Char) :=
  splitAt '\n' content.toList

/-- The same text with a carriage return before each line break. -/
def withReturns (content : String) : String :=
  String.ofList (content.toList.flatMap fun char => if char = '\n' then ['\r', '\n'] else [char])

/-- One change of layout, made or taken back. A row is outside blocks if no block is open before it, or if
it closes the block that is. -/
inductive Relaid : String → String → Prop
  | returns {content : String} (plain : '\r' ∉ content.toList) : Relaid content (withReturns content)
  | blankRow {content other : String} {before after : List (List Char)} {row : List Char}
      (outside : before.foldl insideAfter false = false) (blank : ∀ char ∈ row, isBlank char = true)
      (without : rows content = before ++ after) (inserted : rows other = before ++ row :: after) :
      Relaid content other
  | padding {content other : String} {before after : List (List Char)} {row left right : List Char}
      (outside : before.foldl insideAfter false = true → trim row = blockCloseMarker)
      (leading : ∀ char ∈ left, isBlank char = true) (trailing : ∀ char ∈ right, isBlank char = true)
      (bare : rows content = before ++ row :: after)
      (padded : rows other = before ++ (left ++ row ++ right) :: after) : Relaid content other

private theorem trim_padded {left right : List Char} (leading : ∀ char ∈ left, isBlank char = true)
    (trailing : ∀ char ∈ right, isBlank char = true) (row : List Char) :
    trim (left ++ row ++ right) = trim row := by
  have front : trim (left ++ row) = trim row := by
    induction left with
    | nil => rfl
    | cons char left ih =>
      obtain ⟨blank, others⟩ := List.forall_mem_cons.mp leading
      rw [List.cons_append, trim_cons_blank _ blank, ih others]
  rw [← front]
  induction right using List.reverseRecOn with
  | nil => rw [List.append_nil]
  | append_singleton right char ih =>
    rw [← List.append_assoc, trim_concat_blank _ (trailing char (by simp))]
    exact ih fun other member => trailing other (by simp [member])

/-- The lines that are read of rows: the last row is no line if it is empty, and each other one loses its
carriage return. -/
def linesOf : List (List Char) → List (List Char)
  | [] => []
  | [last] => if last.isEmpty then [] else [last]
  | row :: next :: rest => dropReturn row :: linesOf (next :: rest)

theorem linesOf_cons (row : List Char) {rest : List (List Char)} (more : rest ≠ []) :
    linesOf (row :: rest) = dropReturn row :: linesOf rest := by
  obtain ⟨next, others, rfl⟩ := List.exists_cons_of_ne_nil more
  rfl

private theorem lines_eq_linesOf (text : List Char) : lines text = linesOf (splitAt '\n' text) := by
  rw [lines]
  generalize splitAt '\n' text = rows
  fun_induction linesOf rows with
  | case1 => rfl
  | case2 last empty =>
    rw [List.isEmpty_iff] at empty
    subst empty
    rfl
  | case3 last more =>
    obtain ⟨char, rest, rfl⟩ := List.exists_cons_of_ne_nil (by simpa using more)
    rfl
  | case4 row next rest ih =>
    rw [← ih]
    simp only [List.dropLast_cons_cons, List.map_cons, List.getLast?_cons_cons]
    split <;> rfl

private theorem linesOf_withReturns {text : List Char} (plain : '\r' ∉ text) :
    linesOf (splitAt '\n' (text.flatMap fun char => if char = '\n' then ['\r', '\n'] else [char])) =
      linesOf (splitAt '\n' text) := by
  induction size : text.length using Nat.strongRecOn generalizing text with
  | ind size ih =>
    have kept {row : List Char} (single : '\n' ∉ row) :
        (row.flatMap fun char => if char = '\n' then ['\r', '\n'] else [char]) = row := by
      refine (List.flatMap_congr fun char member => ?_).trans (List.flatMap_singleton' row)
      refine if_neg ?_
      rintro rfl
      exact single member
    by_cases broken : '\n' ∈ text
    · obtain ⟨row, rest, rfl, single⟩ := List.eq_append_cons_of_mem broken
      have bare : row.getLast? ≠ some '\r' := fun last =>
        plain (List.mem_append_left _ (List.mem_of_getLast? last))
      have returned : '\n' ∉ row ++ ['\r'] := by simpa using single
      rw [List.flatMap_append, kept single, List.flatMap_cons, if_pos rfl, List.cons_append,
        List.singleton_append, List.append_cons row '\r', splitAt_append returned, splitAt_append single,
        linesOf_cons _ (splitAt_ne_nil _ _), linesOf_cons _ (splitAt_ne_nil _ _), dropReturn_concat,
        dropReturn_of_getLast? bare,
        ih rest.length (by simp [← size]; omega) (fun member => plain (by simp [member])) rfl]
    · rw [kept broken]

namespace Draft
variable (environment : Environment)

/-- A line that is no content of a block is read by what stands in it without its ends. -/
theorem feed_congr {draft : Draft} {row other : List Char}
    (apart : draft.block.isSome = true → trim row = blockCloseMarker) (same : trim other = trim row) :
    draft.feed environment other = draft.feed environment row := by
  rw [feed, feed, trim_dropReturn, trim_dropReturn, same]
  cases block : draft.block with
  | none => rfl
  | some lines =>
    rw [block] at apart
    simp only [apart rfl, if_true]

private theorem feed_blank {draft : Draft} (outside : draft.block = none) {row : List Char}
    (blank : trim row = []) : draft.feed environment row = draft := by
  rw [feed, trim_dropReturn, blank, outside]
  rfl

def readRows (draft : Draft) (rows : List (List Char)) : List Case :=
  ((linesOf rows).foldl (feed environment) draft).finish

/-- Rows are read one after another, but for a last row inside a block, which may be no line. -/
theorem readRows_cons {draft : Draft} {row : List Char} {rest : List (List Char)}
    (apart : rest = [] → draft.block.isSome = true → trim row = blockCloseMarker) :
    draft.readRows environment (row :: rest) =
      (draft.feed environment (dropReturn row)).readRows environment rest := by
  cases rest with
  | cons next rest => rfl
  | nil =>
    rw [feed_congr environment (apart rfl) (trim_dropReturn row)]
    cases row with
    | cons char row => rfl
    | nil =>
      have outside : draft.block = none := by
        rw [← Option.not_isSome_iff_eq_none]
        intro inside
        cases apart rfl inside
      rw [feed_blank environment outside rfl]
      rfl

theorem readRows_append (draft : Draft) (before : List (List Char)) :
    ∃ later : Draft, later.block.isSome = before.foldl insideAfter draft.block.isSome ∧
      ∀ rest, (later.block.isSome = true → rest ≠ []) →
        draft.readRows environment (before ++ rest) = later.readRows environment rest := by
  induction before generalizing draft with
  | nil => exact ⟨draft, rfl, fun _ _ => rfl⟩
  | cons row before ih =>
    obtain ⟨later, state, reads⟩ := ih (draft.feed environment (dropReturn row))
    have inside : insideAfter draft.block.isSome (dropReturn row) =
        insideAfter draft.block.isSome row := by
      simp only [insideAfter, staysInside, trim_dropReturn]
    rw [feed_inside, inside] at state
    refine ⟨later, state, fun rest more => ?_⟩
    rw [List.cons_append, readRows_cons environment, reads rest more]
    intro last opened
    obtain ⟨rfl, rfl⟩ := List.append_eq_nil_iff.mp last
    have closed : later.block.isSome ≠ true := fun inside => more inside rfl
    rw [state, List.foldl_nil, insideAfter, if_pos opened] at closed
    simpa [staysInside] using closed

end Draft

private theorem parse_eq_readRows (environment : Environment) (content : String) :
    parse environment content = Draft.empty.readRows environment (rows content) := by
  rw [parse, parseChars, lines_eq_linesOf]
  rfl

/-- No single change of layout changes what is read. -/
theorem Relaid.parse_eq {content other : String} (relaid : Relaid content other)
    (environment : Environment) : parse environment content = parse environment other := by
  cases relaid with
  | returns plain =>
    rw [parse, parse, parseChars, parseChars, lines_eq_linesOf, lines_eq_linesOf, withReturns,
      String.toList_ofList, linesOf_withReturns plain]
  | @blankRow _ before after row outside blank without inserted =>
    obtain ⟨later, state, reads⟩ := Draft.readRows_append environment Draft.empty before
    have closed : later.block = none := by
      rw [← Option.not_isSome_iff_eq_none, state]
      exact Bool.eq_false_iff.mp outside
    have trimmed : trim (dropReturn row) = [] := (trim_dropReturn row).trans (trim_eq_nil_iff.mpr blank)
    rw [parse_eq_readRows, parse_eq_readRows, without, inserted, reads, reads, Draft.readRows_cons,
      Draft.feed_blank environment closed trimmed]
    all_goals simp [closed]
  | @padding _ before after row left right outside leading trailing bare padded =>
    obtain ⟨later, state, reads⟩ := Draft.readRows_append environment Draft.empty before
    have apart : later.block.isSome = true → trim row = blockCloseMarker := by
      rw [state]
      exact outside
    have same := trim_padded leading trailing row
    rw [parse_eq_readRows, parse_eq_readRows, bare, padded, reads, reads,
      Draft.readRows_cons environment fun _ => apart,
      Draft.readRows_cons environment fun _ inside => same.trans (apart inside),
      Draft.feed_congr environment apart (trim_dropReturn row),
      Draft.feed_congr environment apart ((trim_dropReturn _).trans same)]
    all_goals simp

/-- Changes of layout, one after another and in either direction, leave all cases as they are under every
environment. -/
theorem parse_relaid {content other : String} (relaid : Relation.EqvGen Relaid content other)
    (environment : Environment) : parse environment content = parse environment other := by
  induction relaid with
  | rel _ _ single => exact single.parse_eq environment
  | refl => rfl
  | symm _ _ _ ih => exact ih.symm
  | trans _ _ _ _ _ first second => exact first.trans second

/-- The close marker is padded, a blank line follows it, and all line breaks get carriage returns. The line
of the block keeps its blanks. -/
theorem parse_relaid_mugs :
    let content := "## Cart\n\"+\"\n  two mugs\n\"-\"\npay"
    let other := withReturns "## Cart\n\"+\"\n  two mugs\n  \"-\" \t\n \npay"
    Relation.EqvGen Relaid content other ∧
      ∀ environment, parse environment content = parse environment other := by
  intro content other
  let padded := "## Cart\n\"+\"\n  two mugs\n  \"-\" \t\npay"
  let spaced := "## Cart\n\"+\"\n  two mugs\n  \"-\" \t\n \npay"
  let before := [caseMarker ++ " Cart".toList, blockOpenMarker, "  two mugs".toList]
  have first : Relaid content padded :=
    @Relaid.padding content padded before ["pay".toList] blockCloseMarker "  ".toList " \t".toList
      (fun _ => by decide) (List.all_eq_true.mp (by decide)) (List.all_eq_true.mp (by decide))
      (by decide +kernel) (by decide +kernel)
  have second : Relaid padded spaced :=
    @Relaid.blankRow padded spaced (before ++ ["  \"-\" \t".toList]) ["pay".toList] [' ']
      (by decide +kernel) (List.all_eq_true.mp (by decide)) (by decide +kernel) (by decide +kernel)
  have third : Relaid spaced other := .returns (by decide +kernel)
  have relaid : Relation.EqvGen Relaid content other :=
    .trans _ _ _ (.rel _ _ first) (.trans _ _ _ (.rel _ _ second) (.rel _ _ third))
  exact ⟨relaid, parse_relaid relaid⟩

end TextScenario.Scenario
