import TextScenario.Proofs.RegexAlternatives
import TextScenario.Proofs.RegexSpans

/-! Carets and dollar signs in a fragment of a library. -/

namespace TextScenario.Regex

open Pattern (inSequence anchored)

private theorem spans_shape (input : List Char) (regex : Regex) : regex.shape.Spans input = regex.Spans input := by
  induction regex with
  | empty | chars | look => rfl
  | concat left right first second =>
    funext start stop
    rw [shape, Spans, Spans, first, second]
  | alternate left right first second =>
    funext start stop
    rw [shape, Spans, Spans, first, second]
  | repeated inner least most greedy ih =>
    funext start stop
    rw [shape, Spans, Spans, ih]
  | group index name inner ih =>
    rw [shape, Spans, ih, Spans]

/-- What expressions take one after the other. -/
def InTurn (input : List Char) : List Regex → Nat → Nat → Prop
  | [], first, last => last = first
  | regex :: rest, first, last => ∃ next, regex.Spans input first next ∧ InTurn input rest next last

variable {input : List Char}

theorem inTurn_append {left right : List Regex} {first last : Nat} :
    InTurn input (left ++ right) first last ↔
      ∃ next, InTurn input left first next ∧ InTurn input right next last := by
  induction left generalizing first with
  | nil => simp [InTurn]
  | cons regex rest ih =>
    rw [List.cons_append, InTurn]
    simp only [InTurn, ih, ← exists_and_left, ← exists_and_right, and_assoc]
    exact exists_comm

theorem spans_inSequence {sequence : List Regex} {first last : Nat} :
    (inSequence sequence).Spans input first last ↔ InTurn input sequence first last := by
  have folded (rest : List Regex) (regex : Regex) :
      (rest.foldl .concat regex).Spans input first last ↔ InTurn input (regex :: rest) first last := by
    induction rest generalizing regex with
    | nil => simp [InTurn]
    | cons second rest ih =>
      rw [List.foldl_cons, ih]
      simp only [InTurn, Spans]
      constructor
      · rintro ⟨next, ⟨middle, here, there⟩, later⟩
        exact ⟨middle, here, next, there, later⟩
      · rintro ⟨middle, here, next, there, later⟩
        exact ⟨next, ⟨middle, here, there⟩, later⟩
  cases sequence with
  | nil => rfl
  | cons regex rest => exact folded rest regex

private theorem spans_joined {nodes : List Node} (nonempty : nodes ≠ []) {first last : Nat} :
    (Reading.joined nodes).regex.Spans input first last ↔ ∃ node ∈ nodes, node.regex.Spans input first last := by
  have folded (rest : List Node) (regex : Regex) :
      (rest.foldl (fun regex node => .alternate regex node.regex) regex).Spans input first last ↔
        regex.Spans input first last ∨ ∃ node ∈ rest, node.regex.Spans input first last := by
    induction rest generalizing regex with
    | nil => simp
    | cons node rest ih =>
      rw [List.foldl_cons, ih, Spans]
      simp only [List.mem_cons, exists_eq_or_imp, or_assoc]
  rcases nodes with _ | ⟨node, _ | ⟨second, rest⟩⟩
  · contradiction
  · simp [Reading.joined]
  · have whole : (Reading.joined (node :: second :: rest)).regex =
        (second :: rest).foldl (fun regex node => .alternate regex node.regex) node.regex := rfl
    rw [whole, folded]
    simp only [List.mem_cons, exists_eq_or_imp]

/-- An anchored expression accepts an input exactly if its body takes all of it. -/
theorem anchored_search?_isSome (body : Regex) (input : List Char) :
    ((anchored body).search? input).isSome = true ↔ body.Spans input 0 input.length := by
  let start : Place := { offset := 0, previous := none, rest := input }
  have lie : ∀ place ∈ [start], place.Lies input := by
    simpa using (⟨rfl, rfl, Nat.zero_le _⟩ : start.Lies input)
  have reach (offset : Nat) : offset ∈ offsets ((anchored body).stops [start]) ↔
      body.Spans input 0 offset ∧ input[offset]? = none := by
    rw [mem_offsets_stops _ lie]
    simp [offsets, anchored, Spans, Look.holds, start]
  rw [Pattern.anchored_search?, stopAt?, List.isSome_head?]
  constructor
  · intro nonempty
    obtain ⟨stop, found⟩ := List.exists_mem_of_ne_nil _ nonempty
    obtain ⟨spans, ended⟩ := (reach stop.offset).mp (List.mem_map_of_mem found)
    have inside := (stops_lie _ lie stop found).inside
    have whole : stop.offset = input.length :=
      Nat.le_antisymm inside (List.getElem?_eq_none_iff.mp ended)
    rwa [whole] at spans
  · intro spans
    have found := (reach input.length).mpr ⟨spans, by simp⟩
    obtain ⟨stop, member, -⟩ := mem_offsets.mp found
    exact List.ne_nil_of_mem member

private theorem inTurn_anchor (given : Bool) (kind : Look) {first last : Nat} :
    InTurn input (((if given then [Item.node ⟨.look kind, 0⟩] else []).reverse.filterMap Item.node?).map Node.regex)
        first last ↔
      last = first ∧ (given = true → kind.holds (input.take first).getLast? input[first]? = true) := by
  cases given
  · simp [InTurn]
  · simp [InTurn, Spans, Item.node?]

variable [Engine]

namespace Alternative

/-- Whether the body of an alternative, between anchors of its own, accepts an input. -/
def Accepts (alternative : Alternative) (input : List Char) : Prop :=
  ((anchored alternative.regex).search? input).isSome = true

/-- An alternative takes what its body takes, from the start of the input if it has a caret, and up to the end if
it has a dollar sign. -/
theorem spans_node {alternative : Alternative} {first last : Nat} :
    alternative.node.regex.Spans input first last ↔
      (alternative.caret = true → input.take first = []) ∧ alternative.regex.Spans input first last ∧
        (alternative.dollar = true → input.drop last = []) := by
  have body : alternative.regex =
      inSequence ((alternative.reading.items.reverse.filterMap Item.node?).map Node.regex) := by
    rw [regex, Reading.choice_regex alternative.whole, Reading.sequence_regex]
  have textStart (offset : Nat) : Look.holds .textStart (input.take offset).getLast? input[offset]? = true ↔
      input.take offset = [] := by simp [Look.holds]
  have textEnd (offset : Nat) : Look.holds .textEnd (input.take offset).getLast? input[offset]? = true ↔
      input.drop offset = [] := by simp [Look.holds]
  rw [node, Reading.sequence_regex, items, List.reverse_append, List.reverse_append, List.filterMap_append,
    List.filterMap_append, List.map_append, List.map_append, spans_inSequence, inTurn_append, body, spans_inSequence]
  simp only [inTurn_append, inTurn_anchor, textStart, textEnd]
  constructor
  · rintro ⟨_, ⟨rfl, caret⟩, _, spans, rfl, dollar⟩
    exact ⟨caret, spans, dollar⟩
  · rintro ⟨caret, spans, dollar⟩
    exact ⟨first, ⟨rfl, caret⟩, last, spans, rfl, dollar⟩

theorem accepts_iff {alternative : Alternative} : alternative.Accepts input ↔
    alternative.regex.Spans input 0 input.length :=
  anchored_search?_isSome _ _

private theorem spans_between {alternative : Alternative} (before text after : List Char) :
    alternative.node.regex.Spans (before ++ text ++ after) before.length (before.length + text.length) ↔
      alternative.Accepts text ∧ (alternative.caret = true → before = []) ∧
        (alternative.dollar = true → after = []) := by
  have middle (offset : Nat) (inside : offset < text.length) :
      (before ++ text ++ after)[before.length + offset]? = text[0 + offset]? := by
    rw [List.append_assoc, List.getElem?_append_right (Nat.le_add_right _ _), Nat.add_sub_cancel_left,
      List.getElem?_append_left inside, Nat.zero_add]
  have body : alternative.regex.Spans (before ++ text ++ after) before.length (before.length + text.length) ↔
      alternative.regex.Spans text 0 text.length := by
    constructor
    · intro spans
      have shifted : alternative.regex.Spans text (0 + 0) (0 + text.length) :=
        Spans.shift alternative.free (fun offset inside => (middle offset inside).symm) (Nat.le_refl _) spans
      rwa [Nat.zero_add text.length] at shifted
    · intro spans
      have spans : alternative.regex.Spans text (0 + 0) (0 + text.length) := by rwa [Nat.zero_add text.length]
      exact Spans.shift alternative.free middle (Nat.le_refl _) spans
  have left : (before ++ text ++ after).take before.length = before := by
    rw [List.append_assoc, List.take_left]
  have right : (before ++ text ++ after).drop (before.length + text.length) = after := by
    rw [← List.length_append, List.drop_left]
  rw [spans_node, body, left, right, accepts_iff]
  exact and_left_comm

def joined (alternatives : List Alternative) : Node :=
  Reading.joined (alternatives.map node)

/-- Whatever stands around a text, a fragment takes it by the alternatives that accept it and have no anchor
towards the side where something stands. -/
theorem spans_fragment {alternatives : List Alternative} (nonempty : alternatives ≠ []) {other : Node}
    (alike : (joined alternatives).Alike other) (before text after : List Char) :
    other.regex.Spans (before ++ text ++ after) before.length (before.length + text.length) ↔
      ∃ alternative ∈ alternatives, alternative.Accepts text ∧ (alternative.caret = true → before = []) ∧
        (alternative.dollar = true → after = []) := by
  rw [← spans_shape, alike.shape, spans_shape, joined, spans_joined (by simpa using nonempty)]
  simp only [List.mem_map, exists_exists_and_eq_and, spans_between]

end Alternative

end TextScenario.Regex

namespace TextScenario.Regex.Reading

/-- What closing a group makes of the node inside of it. -/
def enclosed (capture : Option (Nat × Option String)) (inner : Node) : Node :=
  { regex := match capture with
      | none => inner.regex
      | some (index, name) => .group index name inner.regex
    depth := inner.depth + 1 }

/-- A group with a fragment in it is read from its first character to the parenthesis that closes it. -/
theorem goes_group [Engine] {opened : Reading} (fresh : opened.Fresh) {group : OpenGroup} {outer : List OpenGroup}
    (inside : opened.outer = group :: outer) {alternatives : List Alternative} (nonempty : alternatives ≠ [])
    (rest : List Char)
    (given : (opened.names :: alternatives.map fun alternative => alternative.reading.names).Pairwise
        List.Disjoint ∨
      ∃ more final, run more opened (Alternative.fragment alternatives ++ ')' :: rest) = some final) :
    (opened.names :: alternatives.map fun alternative => alternative.reading.names).Pairwise List.Disjoint ∧
      ∃ used ≤ (Alternative.fragment alternatives).length + 1, ∃ inner groups names,
        (Alternative.joined alternatives).Alike inner ∧
          Goes used opened (Alternative.fragment alternatives ++ ')' :: rest)
            { flags := group.flags, items := .node (enclosed group.capture inner) :: group.items,
              branches := group.branches, outer, groups, names } rest := by
  obtain ⟨used, enough, later, goes, ended⟩ := goes_fragment fresh.flags fresh.items nonempty rest given
  obtain ⟨nodes, whole, alike⟩ := ended.nodes
  have groups := ended.outer.trans inside
  refine ⟨ended.apart, used + 1, Nat.succ_le_succ enough, later.choice, later.groups, later.names, ?_,
    goes.trans ?_⟩
  · rw [fresh.branches, List.reverse_nil, List.nil_append] at whole
    rw [Alternative.joined, choice_joined, whole]
    exact joined_alike alike
  · refine .next (skip_parenthesis _ rest) ?_ .done
    rw [Reading.next, Reading.closeGroup, groups]
    rfl

end TextScenario.Regex.Reading

namespace TextScenario.Pattern

open Regex (Alternative Node Reading)
open Regex.Reading (Goes)

variable [Regex.Engine]

theorem Reads.goes {reading final : Reading} {text rest : List Char} (reads : Reads reading text final rest) :
    ∃ used, used + rest.length ≤ text.length ∧ Goes used reading text final rest := by
  induction reads with
  | done => exact ⟨0, by omega, .done⟩
  | next plain consumed shorter later ih =>
    obtain ⟨used, enough, goes⟩ := ih
    refine ⟨used + 1, ?_, .next (skip_plain plain _) consumed goes⟩
    rw [List.length_cons]
    omega

/-- What is read of a text within its length is what is read of it. -/
theorem run_of_goes {used : Nat} {text : List Char} {final : Reading} (enough : used ≤ text.length)
    (goes : Goes used {} text final []) : Reading.run text.length {} text = some final := by
  obtain ⟨more, same⟩ := Nat.exists_eq_add_of_le enough
  rw [same, goes.run, Reading.run_nil]

/-- A fragment that is an expression between anchors accepts what one of its alternatives accepts. -/
theorem read?_fragment {alternatives : List Alternative} (nonempty : alternatives ≠ []) {regex : Regex}
    (read : Regex.read? ("^(?:".toList ++ (Alternative.fragment alternatives ++ ")$".toList)) = some regex) :
    (alternatives.map fun alternative => alternative.reading.names).Pairwise List.Disjoint ∧
      ∀ input, (regex.search? input).isSome = true ↔
        ∃ alternative ∈ alternatives, alternative.Accepts input := by
  obtain ⟨last, whole, sized⟩ := Option.bind_eq_some_iff.mp read
  obtain ⟨first, -, begun⟩ := (reads_opened (Alternative.fragment alternatives ++ ")$".toList)).goes
  obtain ⟨more, reached⟩ := begun.resume whole
  have fresh : Reading.Fresh (within [patternGroup] [] 0 []) := ⟨rfl, rfl, rfl⟩
  obtain ⟨apart, used, -, inner, groups, names, alike, goes⟩ :=
    Reading.goes_group fresh rfl nonempty ['$'] (.inr ⟨more, last, reached⟩)
  obtain ⟨more, reached⟩ := goes.resume reached
  let closed : Reading :=
    { items := [.node (Reading.enclosed none inner), .node textStart], groups, names }
  obtain ⟨more, reached⟩ := (reads_end (rfl : closed.flags = {})).resume reached
  rw [Reading.run_nil] at reached
  cases reached
  have tree : (closed.push ⟨.look .textEnd, 0⟩).choice.regex = anchored inner.regex := rfl
  refine ⟨(List.pairwise_cons.mp apart).2, fun input => ?_⟩
  dsimp only at sized
  split at sized
  next ended =>
    split at sized
    · cases sized
      have taken := Alternative.spans_fragment nonempty alike [] input []
      simp only [List.nil_append, List.append_nil, List.length_nil, Nat.zero_add, implies_true, and_true] at taken
      rw [tree, Regex.anchored_search?_isSome, taken]
    · contradiction
  next => contradiction

end TextScenario.Pattern
