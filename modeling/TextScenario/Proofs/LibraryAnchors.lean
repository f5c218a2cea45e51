import TextScenario.Proofs.FragmentAnchors
import TextScenario.Proofs.JsonFields

/-! A fragment of a library between literal texts. The pattern accepts a text of the fragment with the literal
texts around it, unless an alternative that accepts the text kept an anchor towards one of them. -/

namespace TextScenario.Pattern

open Regex (Alternative Node Reading)
open Regex.Reading (enclosed)

/-- Neither delimiters nor braces stand in a text. -/
def Literal (text : String) : Prop :=
  ∀ char ∈ text.toList, char ∉ ['~', '|', '{', '}']

instance (text : String) : Decidable (Literal text) :=
  List.decidableBAll (· ∉ ['~', '|', '{', '}']) text.toList

def around (before name after : String) : String :=
  before ++ ("\x7b" ++ (name ++ ("\x7d" ++ after)))

section

variable {before name after : String}

private theorem around_toList (before name after : String) :
    (around before name after).toList = before.toList ++ '{' :: (name.toList ++ '}' :: after.toList) := by
  simp [around]

private theorem Literal.no_brace {text : String} (literal : Literal text) : '{' ∉ text.toList :=
  fun member => literal _ member (by simp)

private theorem Literal.no_delimiter {text : String} (literal : Literal text) (delimiter : Delimiter) :
    delimiter.char ∉ text.toList :=
  fun member => literal _ member (by cases delimiter <;> decide)

private theorem around_delimiter (first : Literal before) (last : Literal after)
    (accepted : nameRule.accepts name.toList = true) (delimiter : Delimiter) :
    delimiter.char ∉ (around before name after).toList := by
  have foreign : delimiter.char ∉ name.toList := by
    intro member
    have own := Text.NameRule.member_of_accepts accepted member
    rw [(breaks_delimiter delimiter).foreign] at own
    contradiction
  rw [around_toList]
  simp only [List.mem_append, List.mem_cons, not_or]
  exact ⟨first.no_delimiter _, (breaks_delimiter delimiter).noOpen, foreign, (breaks_delimiter delimiter).noClose,
    last.no_delimiter _⟩

private theorem pieces_around (first : Literal before) (last : Literal after)
    (accepted : nameRule.accepts name.toList = true) :
    Text.pieces nameRule (around before name after).toList =
      before.toList.map .char ++ .placeholder name.toList :: after.toList.map .char := by
  have named : Text.piecesFrom nameRule (some []) (name.toList ++ '}' :: after.toList) =
      .placeholder name.toList :: Text.piecesFrom nameRule none after.toList :=
    @Text.piecesFrom_name nameRule rfl [] name.toList accepted after.toList
  have ended : Text.piecesFrom nameRule none after.toList = after.toList.map .char := by
    have whole := @Text.piecesFrom_plain nameRule _ last.no_brace []
    rwa [List.append_nil, Text.piecesFrom, List.append_nil] at whole
  rw [Text.pieces, around_toList, Text.piecesFrom_plain first.no_brace, Text.piecesFrom, if_pos rfl, named, ended]

private theorem elements_around (first : Literal before) (last : Literal after)
    (accepted : nameRule.accepts name.toList = true) (delimiter : Delimiter) :
    elements (around before name after) delimiter =
      before.toList.map .char ++ .placeholder name.toList :: after.toList.map .char := by
  have whole : ¬ (around before name after).toList.contains delimiter.char = true := by
    simpa using around_delimiter first last accepted delimiter
  rw [elements, segments, if_neg whole, elementsOf, pieces_around first last accepted, List.map_append,
    List.map_cons, List.map_map, List.map_map]
  rfl

private theorem names_around (first : Literal before) (last : Literal after)
    (accepted : nameRule.accepts name.toList = true) : placeholders (around before name after) = [name] := by
  have plain (text : List Char) : (text.map Text.Piece.char).filterMap Text.Piece.name? = [] := by
    rw [List.filterMap_map]
    exact List.filterMap_none text
  rw [placeholders, placeholderChars, pieces_around first last accepted, List.filterMap_append, List.filterMap_cons,
    plain, plain]
  exact congrArg ([·]) (String.ofList_toList)

private theorem check_around (first : Literal before) (last : Literal after)
    (accepted : nameRule.accepts name.toList = true) (delimiter : Delimiter) :
    check (around before name after) delimiter = .ok () := by
  have written : Text.trim (around before name after).toList ≠ [] := by
    rw [Ne, Text.trim_eq_nil_iff, around_toList]
    intro blank
    exact absurd (blank '{' (by simp)) (by decide)
  have distinct : (placeholders (around before name after)).Nodup := by
    rw [names_around first last accepted]
    simp
  exact check_eq_ok_iff.mpr ⟨written, around_delimiter first last accepted delimiter.other, distinct⟩

end

def charNode (own : Char) : Node :=
  ⟨.chars (.single own), 0⟩

def surrounded (before : List Char) (group : Node) (after : List Char) : List Node :=
  before.map charNode ++ group :: after.map charNode

private theorem reads_literal [Regex.Engine] (outer : List Regex.OpenGroup) (items : List Node) (groups : Nat) (names : List String)
    (text rest : List Char) :
    Reads (within outer items groups names) (text.flatMap escapeChar ++ rest)
      (within outer ((text.map charNode).reverse ++ items) groups names) rest := by
  induction text generalizing items with
  | nil => exact .done
  | cons own text ih =>
    rw [List.flatMap_cons, List.append_assoc, List.map_cons, List.reverse_cons, List.append_assoc]
    exact (reads_char rfl own _).trans (ih (charNode own :: items))

def expressionAround (before name fragment after : List Char) : List Char :=
  "^(?:".toList ++ (before.flatMap escapeChar ++ ("(?P<".toList ++ (name ++ '>' :: (fragment ++ ')' ::
    (after.flatMap escapeChar ++ ")$".toList)))))

def placed (name : String) (inner : Node) : Node :=
  enclosed (some (1, some name)) inner

/-- What is read of a pattern before the fragment of its placeholder. -/
def opened (before : List Char) (name : String) : Reading :=
  within
    ({ items := (before.map charNode).reverse.map .node, branches := [], flags := {},
       capture := some (1, some name) } :: [patternGroup])
    [] 1 [name]

private theorem opened_fresh (before : List Char) (name : String) : (opened before name).Fresh :=
  ⟨rfl, rfl, rfl⟩

private theorem reads_before [Regex.Engine] (before : List Char) {name : String} (accepted : nameRule.accepts name.toList = true)
    (fragment after : List Char) :
    Reads {} (expressionAround before name.toList fragment after) (opened before name)
      (fragment ++ ')' :: (after.flatMap escapeChar ++ ")$".toList)) := by
  have literal := reads_literal [patternGroup] [] 0 [] before
    ("(?P<".toList ++ (name.toList ++ '>' :: (fragment ++ ')' :: (after.flatMap escapeChar ++ ")$".toList))))
  have named := reads_named [patternGroup] (before.map charNode).reverse 0 [] accepted (List.not_mem_nil)
    (fragment ++ ')' :: (after.flatMap escapeChar ++ ")$".toList))
  rw [String.ofList_toList] at named
  rw [List.append_nil] at literal
  exact (reads_opened _).trans (literal.trans named)

private theorem reads_after [Regex.Engine] (before after : List Char) (node : Node) (groups : Nat) (names : List String) :
    Reads (within [patternGroup] (node :: (before.map charNode).reverse) groups names)
      (after.flatMap escapeChar ++ ")$".toList) (readPattern (surrounded before node after) groups names) [] := by
  have nodes : (surrounded before node after).reverse =
      (after.map charNode).reverse ++ node :: (before.map charNode).reverse := by
    simp [surrounded]
  refine (reads_literal _ _ groups names after _).trans ?_
  rw [← nodes]
  exact reads_closed _ groups names

section

variable [Regex.Engine] {name : String} (accepted : nameRule.accepts name.toList = true) {alternatives : List Alternative}
  (nonempty : alternatives ≠ [])

include accepted nonempty

/-- A fragment is read in the group of its placeholder, with the literal texts around the group. -/
theorem read_around (before after : List Char)
    (apart : ([name] :: alternatives.map fun alternative => alternative.reading.names).Pairwise List.Disjoint) :
    ∃ inner groups names, (Alternative.joined alternatives).Alike inner ∧
      Reading.run (expressionAround before name.toList (Alternative.fragment alternatives) after).length {}
          (expressionAround before name.toList (Alternative.fragment alternatives) after) =
        some (readPattern (surrounded before (placed name inner) after) groups names) := by
  obtain ⟨first, opening, begins⟩ := (reads_before before accepted (Alternative.fragment alternatives) after).goes
  obtain ⟨-, second, enough, inner, groups, names, alike, middle⟩ :=
    Reading.goes_group (opened_fresh before name) rfl nonempty _ (.inl apart)
  obtain ⟨third, closing, ends⟩ := (reads_after before after (placed name inner) groups names).goes
  refine ⟨inner, groups, names, alike, run_of_goes ?_ (begins.trans (middle.trans ends))⟩
  rw [List.length_append, List.length_cons] at opening
  rw [List.length_nil] at closing
  omega

private theorem apart_of_read {before after : List Char} {final : Reading} {fuel : Nat}
    (read : Reading.run fuel {} (expressionAround before name.toList (Alternative.fragment alternatives) after) =
      some final) :
    ([name] :: alternatives.map fun alternative => alternative.reading.names).Pairwise List.Disjoint := by
  obtain ⟨more, reached⟩ := (reads_before before accepted (Alternative.fragment alternatives) after).resume read
  exact (Reading.goes_group (opened_fresh before name) rfl nonempty _ (.inr ⟨more, final, reached⟩)).1

end

/-- There is room for these alternatives in a pattern: none of their groups has the name of its placeholder, and the
expression is small enough with them. -/
def Fits [Regex.Engine] (before name after : String) (alternatives : List Alternative) : Prop :=
  let nodes := surrounded before.toList (placed name (Alternative.joined alternatives)) after.toList
  let whole := (readPattern nodes 0 []).choice
  (∀ alternative ∈ alternatives, name ∉ alternative.reading.names) ∧
    whole.depth ≤ Regex.greatestNesting ∧ Regex.Engine.takes whole.regex = true

instance [Regex.Engine] (before name after : String) (alternatives : List Alternative) :
    Decidable (Fits before name after alternatives) :=
  inferInstanceAs (Decidable (_ ∧ _))

/-- Neither the numbers of groups nor the names that are given make a pattern larger. -/
theorem readPattern_alike {nodes others : List Node} (alike : List.Forall₂ Node.Alike nodes others)
    (groups more : Nat) (names given : List String) :
    (readPattern nodes groups names).choice.Alike (readPattern others more given).choice := by
  have items : List.Forall₂ Regex.Item.Alike (nodes.reverse.map .node) (others.reverse.map .node) := by
    rw [List.forall₂_map_left_iff, List.forall₂_map_right_iff]
    exact (List.rel_reverse alike).imp fun _ _ => .node
  have inner := Regex.Reading.sequence_alike items
  refine Regex.Reading.choice_alike (.cons (.node (.refl _)) (.cons (.node ?_) (.cons (.node (.refl _)) .nil))) .nil
  exact ⟨congrArg (· + 1) inner.depth, inner.shape⟩

private theorem surrounded_alike (before after : List Char) {node other : Node} (alike : node.Alike other) :
    List.Forall₂ Node.Alike (surrounded before node after) (surrounded before other after) :=
  have same (text : List Char) : List.Forall₂ Node.Alike (text.map charNode) (text.map charNode) :=
    List.forall₂_same.mpr fun node _ => .refl node
  List.rel_append (same before) (.cons alike (same after))

private theorem placed_alike (name : String) {inner other : Node} (alike : inner.Alike other) :
    (placed name inner).Alike (placed name other) :=
  ⟨congrArg (· + 1) alike.depth, congrArg (Regex.group 0 (some name)) alike.shape⟩

private theorem inTurn_literal {input text : List Char} {first last : Nat} :
    Regex.InTurn input ((text.map charNode).map Node.regex) first last ↔
      last = first + text.length ∧ text <+: input.drop first := by
  induction text generalizing first with
  | nil => simp [Regex.InTurn]
  | cons own text ih =>
    rw [List.map_cons, List.map_cons, Regex.InTurn, List.length_cons]
    simp only [ih, charNode, Regex.Spans, single_contains, beq_iff_eq]
    constructor
    · rintro ⟨_, ⟨_, found, rfl, rfl⟩, rfl, later⟩
      obtain ⟨inside, here⟩ := List.getElem?_eq_some_iff.mp found
      refine ⟨by omega, ?_⟩
      rw [List.drop_eq_getElem_cons inside, here]
      exact List.cons_prefix_cons.mpr ⟨rfl, later⟩
    · rintro ⟨rfl, rest, same⟩
      have here : input[first]? = some own := by
        rw [← List.head?_drop, ← same]
        rfl
      have later : input.drop (first + 1) = text ++ rest := by
        rw [← List.tail_drop, ← same]
        rfl
      exact ⟨first + 1, ⟨own, here, rfl, rfl⟩, by omega, later ▸ List.prefix_append text rest⟩

private theorem spans_surrounded (before text after : List Char) (node : Node) :
    (inSequence ((surrounded before node after).map Node.regex)).Spans (before ++ text ++ after) 0
        (before ++ text ++ after).length ↔
      node.regex.Spans (before ++ text ++ after) before.length (before.length + text.length) := by
  have first : before <+: (before ++ text ++ after).drop 0 := ⟨text ++ after, (List.append_assoc ..).symm⟩
  have last : after <+: (before ++ text ++ after).drop (before.length + text.length) := by
    rw [← List.length_append, List.drop_left]
  have length : (before ++ text ++ after).length = before.length + text.length + after.length := by
    simp only [List.length_append]
  rw [Regex.spans_inSequence, surrounded, List.map_append, List.map_cons, Regex.inTurn_append, length]
  simp only [Regex.InTurn, inTurn_literal, Nat.zero_add]
  constructor
  · rintro ⟨_, ⟨rfl, -⟩, next, spans, same, -⟩
    obtain rfl : before.length + text.length = next := Nat.add_right_cancel same
    exact spans
  · exact fun spans => ⟨_, ⟨rfl, first⟩, _, spans, rfl, last⟩

section

variable [Regex.Engine] {before name after : String} (accepted : nameRule.accepts name.toList = true)
  {alternatives : List Alternative} (nonempty : alternatives ≠ [])

include accepted nonempty

private theorem read?_sized
    (apart : ([name] :: alternatives.map fun alternative => alternative.reading.names).Pairwise List.Disjoint) :
    ∃ inner groups names, (Alternative.joined alternatives).Alike inner ∧
      Regex.read? (expressionAround before.toList name.toList (Alternative.fragment alternatives) after.toList) =
        if Fits before name after alternatives then
          some (readPattern (surrounded before.toList (placed name inner) after.toList) groups names).choice.regex
        else none := by
  obtain ⟨inner, groups, names, alike, whole⟩ := read_around accepted nonempty before.toList after.toList apart
  have sized := readPattern_alike
    (surrounded_alike before.toList after.toList (placed_alike name alike)) 0 groups [] names
  have fresh : ∀ alternative ∈ alternatives, name ∉ alternative.reading.names := by
    intro alternative member
    exact List.singleton_disjoint.mp ((List.pairwise_cons.mp apart).1 _ (List.mem_map_of_mem member))
  refine ⟨inner, groups, names, alike, (read?_of_run whole rfl).trans ?_⟩
  rw [sized.depth, sized.takes]
  exact if_congr (and_iff_right fresh).symm rfl rfl

/-- If there is room for it, a pattern accepts what stands for its placeholder between the literal texts, with no
anchor towards a literal text that is not empty. -/
theorem read?_fits (apart : (alternatives.map fun alternative => alternative.reading.names).Pairwise List.Disjoint)
    (fits : Fits before name after alternatives) :
    ∃ regex, Regex.read? (expressionAround before.toList name.toList (Alternative.fragment alternatives)
        after.toList) = some regex ∧
      ∀ text : String, (regex.search? (before ++ text ++ after).toList).isSome = true ↔
        ∃ alternative ∈ alternatives, alternative.Accepts text.toList ∧
          (alternative.caret = true → before = "") ∧ (alternative.dollar = true → after = "") := by
  have apart : ([name] :: alternatives.map fun alternative => alternative.reading.names).Pairwise
      List.Disjoint := by
    refine List.pairwise_cons.mpr ⟨fun names member => ?_, apart⟩
    obtain ⟨alternative, inside, rfl⟩ := List.mem_map.mp member
    exact List.singleton_disjoint.mpr (fits.1 alternative inside)
  obtain ⟨inner, groups, names, alike, read⟩ := read?_sized accepted nonempty apart
  rw [if_pos fits] at read
  refine ⟨_, read, fun text => ?_⟩
  rw [readPattern_regex, Regex.anchored_search?_isSome, String.toList_append, String.toList_append,
    spans_surrounded]
  have taken := Alternative.spans_fragment nonempty alike before.toList text.toList after.toList
  simp only [String.toList_eq_nil_iff] at taken
  exact taken

private theorem read?_unfit (unfit : ¬ Fits before name after alternatives) :
    Regex.read? (expressionAround before.toList name.toList (Alternative.fragment alternatives) after.toList) =
      none := by
  refine Option.eq_none_iff_forall_ne_some.mpr fun regex read => ?_
  obtain ⟨final, whole, -⟩ := Option.bind_eq_some_iff.mp read
  obtain ⟨inner, groups, names, -, sized⟩ := read?_sized accepted nonempty (apart_of_read accepted nonempty whole)
  rw [if_neg unfit, read] at sized
  contradiction

end

end TextScenario.Pattern

namespace TextScenario.Regex.Alternative

variable [Engine]

def anything : Alternative where
  caret := false
  body := Pattern.defaultFragment
  dollar := false
  reading := { items := [.node ⟨.repeated (.chars Pattern.notNewline) 1 none false, 1⟩] }
  read := rfl
  closed := rfl
  whole := rfl
  plain := rfl
  free := rfl
  begins := by decide

/-- The alternatives that a placeholder has after a fragment with these alternatives was put into a library. -/
def kept (alternatives : List Alternative) : List Alternative :=
  if fragment (stripped alternatives) = [] then [anything] else stripped alternatives

private theorem stripped_readings (alternatives : List Alternative) :
    (stripped alternatives).map reading = alternatives.map reading := by
  have first (alternatives : List Alternative) :
      (withoutCaret alternatives).map reading = alternatives.map reading := by
    cases alternatives <;> rfl
  have last (alternatives : List Alternative) :
      (withoutDollar alternatives).map reading = alternatives.map reading := by
    fun_induction withoutDollar alternatives with
    | case1 | case2 => rfl
    | case3 first rest nonempty ih => rw [List.map_cons, List.map_cons, ih]
  exact (last _).trans (first _)

theorem kept_ne_nil {alternatives : List Alternative} (nonempty : alternatives ≠ []) : kept alternatives ≠ [] := by
  rw [kept]
  split
  · exact List.cons_ne_nil _ _
  · intro none
    have same := stripped_readings alternatives
    rw [none] at same
    exact nonempty (List.map_eq_nil_iff.mp same.symm)

theorem kept_apart {alternatives : List Alternative}
    (apart : (alternatives.map fun alternative => alternative.reading.names).Pairwise List.Disjoint) :
    ((kept alternatives).map fun alternative => alternative.reading.names).Pairwise List.Disjoint := by
  rw [kept]
  split
  · exact List.pairwise_singleton _ _
  · have same := congrArg (List.map Reading.names) (stripped_readings alternatives)
    rw [List.map_map, List.map_map] at same
    exact same ▸ apart

end TextScenario.Regex.Alternative

namespace TextScenario.Pattern

open Regex (Alternative)

private theorem fragmentOf_insert [Regex.Engine] {library : Library} {name : String} {alternatives : List Alternative}
    (unbound : Alternative.fragment (Alternative.stripped alternatives) = [] → library.fragment? name = none) :
    fragmentOf (library.insert name (String.ofList (Alternative.fragment alternatives))) name.toList =
      Alternative.fragment (Alternative.kept alternatives) := by
  rw [fragmentOf, String.ofList_toList, Library.insert, String.toList_ofList, Alternative.strip_fragment,
    Alternative.kept]
  cases left : Alternative.fragment (Alternative.stripped alternatives) with
  | nil =>
    rw [unbound left]
    rfl
  | cons first rest =>
    rw [if_neg (List.cons_ne_nil _ _), left, Library.fragment?, Json.lookup_insertField, if_pos rfl]
    exact String.toList_ofList

private theorem expression_around {before name after : String} (first : Literal before) (last : Literal after)
    (accepted : nameRule.accepts name.toList = true) (delimiter : Delimiter) (library : Library) :
    (expression (around before name after) delimiter library).toList =
      expressionAround before.toList name.toList (fragmentOf library name.toList) after.toList := by
  have literal (text : List Char) : (text.map Element.char).flatMap (Element.textIn library) =
      text.flatMap escapeChar := by
    rw [List.flatMap_map]
    rfl
  rw [expression_toList, elements_around first last accepted, List.flatMap_append, List.flatMap_cons, literal,
    literal, expressionAround, Element.textIn, pieceExpression, fragmentOf]
  simp only [List.append_assoc, List.cons_append, List.nil_append]

end TextScenario.Pattern

namespace TextScenario

open Pattern (Literal Fits around)
open Regex (Alternative)

private def someDigits : Alternative where
  caret := true
  body := "[0-9]+".toList
  dollar := false
  reading := { items := [.node ⟨.repeated (.chars (.union .nothing (.range '0' '9'))) 1 none true, 2⟩] }
  read := rfl
  closed := rfl
  whole := rfl
  plain := rfl
  free := rfl
  begins := by decide

/-- A price before a dollar sign that stands for the end, after one that stands for itself. -/
private def oneDollar : Alternative where
  caret := false
  body := "1\\$".toList
  dollar := true
  reading := { items := [.node ⟨.chars (.single '$'), 0⟩, .node ⟨.chars (.single '1'), 0⟩] }
  read := rfl
  closed := rfl
  whole := rfl
  plain := rfl
  free := rfl
  begins := by decide

namespace Pattern

/-- A fragment that accepts a text on its own, but not between literal texts. -/
structure Narrowed (before fragment after text : String) : Prop where
  first : Literal before
  last : Literal after
  alone : ∃ regex, Regex.read? ("^(?:" ++ fragment ++ ")$").toList = some regex ∧
    (regex.search? text.toList).isSome = true
  between : ∀ matcher, PatternCompiler.regular.compile (around before "n" after) .tilde
    (Library.insert {} "n" fragment) = .ok matcher → matcher.accepts (before ++ text ++ after) = false

private theorem narrowed_of_search {before fragment after text : String} (first : Literal before) (last : Literal after)
    (alone : (Regex.read? ("^(?:" ++ fragment ++ ")$").toList).any
      (fun regex => (regex.search? text.toList).isSome) = true)
    (between : (Regex.read? (expression (around before "n" after) .tilde (Library.insert {} "n" fragment)).toList).any
      (fun regex => (regex.search? (before ++ text ++ after).toList).isSome) = false) :
    Narrowed before fragment after text := by
  refine ⟨first, last, (Option.any_eq_true ..).mp alone, ?_⟩
  intro matcher compiled
  have checked := check_of_compile compiled
  cases read : Regex.read? (expression (around before "n" after) .tilde (Library.insert {} "n" fragment)).toList with
  | none =>
    rw [compile_unread checked read] at compiled
    cases compiled
  | some regex =>
    rw [compile_read checked read] at compiled
    cases compiled
    rw [read] at between
    exact between

end Pattern

end TextScenario
