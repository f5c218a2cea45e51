import TextScenario.Proofs.PatternMeaning
import TextScenario.Proofs.RegexFragments

/-! Fragments of a library in the expression of a pattern. If each of them is contained, the parentheses around
it hold: the expression stays anchored, and its literal text stays in it. -/

namespace TextScenario.Pattern

open Regex (Node OpenGroup Reading Place)

def fragmentOf (library : Library) (name : List Char) : List Char :=
  ((library.fragment? (String.ofList name)).map String.toList).getD defaultFragment

/-- The nodes that reading has added to the group it is in. -/
structure Extends (reading : Reading) (nodes : List Node) (after : Reading) : Prop where
  flags : after.flags = reading.flags
  items : after.items = nodes.reverse.map .node ++ reading.items
  branches : after.branches = reading.branches
  outer : after.outer = reading.outer

theorem Extends.refl (reading : Reading) : Extends reading [] reading :=
  ⟨rfl, rfl, rfl, rfl⟩

private theorem Extends.push (reading : Reading) (node : Node) : Extends reading [node] (reading.push node) :=
  ⟨rfl, rfl, rfl, rfl⟩

theorem Extends.trans {reading middle after : Reading} {nodes others : List Node}
    (first : Extends reading nodes middle) (second : Extends middle others after) :
    Extends reading (nodes ++ others) after := by
  refine ⟨second.flags.trans first.flags, ?_, second.branches.trans first.branches,
    second.outer.trans first.outer⟩
  rw [second.items, first.items, List.reverse_append, List.map_append, List.append_assoc]

/-- The node that stands for an element. The one for a placeholder is as large as its fragment is on its own. -/
inductive Stands [Regex.Engine] (library : Library) : Element → Node → Prop
  | char (own : Char) : Stands library (.char own) ⟨.chars (.single own), 0⟩
  | gap (delimiter : Delimiter) (index : Nat) :
    Stands library (.gap delimiter) ⟨(Element.gap delimiter).regex index, 1⟩
  | placeholder {name : List Char} {index : Nat} {inner : Node} {last : Reading}
      (read : Reading.run (fragmentOf library name).length {} (fragmentOf library name) = some last)
      (ended : last.outer = []) (alike : last.choice.Alike inner) :
    Stands library (.placeholder name)
      ⟨.group index (some (String.ofList name)) inner.regex, inner.depth + 1⟩

/-- How elements are read: as nodes in the same group, or as text that leaves groups open or closes groups
around it. -/
inductive Passes [Regex.Engine] (library : Library) (side : Regex.Side) (elements : List Element)
    (reading after : Reading) : Prop
  | kept {nodes : List Node} (stand : List.Forall₂ (Stands library) elements nodes)
      (extended : Extends reading nodes after)
  | deeper (errs : side = .opening) (opened : reading.outer.length < after.outer.length)
  | shallower (errs : side = .closing) (closed : after.outer.length < reading.outer.length)

theorem Passes.cons [Regex.Engine] {library : Library} {side : Regex.Side} {element : Element}
    {elements : List Element} {reading middle after : Reading} (first : Passes library side [element] reading middle)
    (others : Passes library side elements middle after) : Passes library side (element :: elements) reading after := by
  cases first with
  | kept stand extended =>
    cases others with
    | kept more further => exact .kept (List.rel_append stand more) (extended.trans further)
    | deeper errs opened => exact .deeper errs (extended.outer ▸ opened)
    | shallower errs closed => exact .shallower errs (extended.outer ▸ closed)
  | deeper errs opened =>
    cases others with
    | kept _ further => exact .deeper errs (further.outer ▸ opened)
    | deeper _ again => exact .deeper errs (Nat.lt_trans opened again)
    | shallower other => cases errs.symm.trans other
  | shallower errs closed =>
    cases others with
    | kept _ further => exact .shallower errs (further.outer ▸ closed)
    | deeper other => cases errs.symm.trans other
    | shallower _ again => exact .shallower errs (Nat.lt_trans again closed)

/-- What a reading goes through before it goes on. -/
theorem Reads.resume [Regex.Engine] {reading middle final : Reading} {text rest : List Char} {fuel : Nat}
    (reads : Reads reading text middle rest) (read : Reading.run fuel reading text = some final) :
    ∃ more, Reading.run more middle rest = some final := by
  induction reads generalizing fuel with
  | done => exact ⟨fuel, read⟩
  | next plain consumed shorter later ih =>
    cases fuel with
    | zero =>
      rw [Reading.run, skip_plain plain] at read
      contradiction
    | succ fuel =>
      rw [Reading.run, skip_plain plain] at read
      dsimp only at read
      rw [consumed] at read
      exact ih read

variable {library : Library} {side : Regex.Side} {reading final : Reading} {rest : List Char} {fuel : Nat}

private theorem run_placeholder [Regex.Engine] (plain : reading.Plain) {name : List Char} (accepted : nameRule.accepts name = true)
    (read : Reading.run fuel reading ((Element.placeholder name).textIn library ++ rest) = some final) :
    ∃ opened more index, opened.Fresh ∧
      opened.outer =
        { items := reading.items, branches := reading.branches, flags := {},
          capture := some (index, some (String.ofList name)) } :: reading.outer ∧
      Reading.run more opened (fragmentOf library name ++ ')' :: rest) = some final := by
  have counted : reading.flags.ignoreBlanks = false := by rw [plain.flags]
  have whole : (Element.placeholder name).textIn library ++ rest =
      '(' :: '?' :: 'P' :: '<' :: (name ++ '>' :: (fragmentOf library name ++ ')' :: rest)) := by
    simp [Element.textIn, pieceExpression, fragmentOf]
  rw [whole] at read
  cases fuel with
  | zero =>
    rw [Reading.run, skip_plain counted] at read
    contradiction
  | succ fuel =>
    rw [Reading.run, skip_plain counted] at read
    obtain ⟨⟨opened, left⟩, consumed, read⟩ := Option.bind_eq_some_iff.mp read
    have named : reading.openNamed (name ++ '>' :: (fragmentOf library name ++ ')' :: rest)) =
        some (opened, left) := by
      rw [← consumed, Reading.next, Reading.openParenthesis, skip_plain counted]
      rfl
    rw [Reading.openNamed, readName_accepted accepted, Option.bind_eq_bind, Option.bind_some] at named
    dsimp only at named
    split at named
    · contradiction
    · cases named
      dsimp only at read
      refine ⟨_, fuel, reading.groups + 1, ?_, ?_, read⟩
      · exact ⟨plain.flags, rfl, rfl⟩
      · rw [← plain.flags]
        rfl

private theorem run_element [Regex.Engine] (plain : reading.Plain) {element : Element}
    (accepted : ∀ name, element = .placeholder name → nameRule.accepts name = true)
    (contained : ∀ name, element = .placeholder name → Regex.Contained side (fragmentOf library name))
    (following : rest.head? ≠ some '?')
    (read : Reading.run fuel reading (element.textIn library ++ rest) = some final) :
    ∃ after more, Reading.run more after rest = some final ∧ after.Plain ∧
      Passes library side [element] reading after := by
  have pushed {node : Node} (stands : Stands library element node)
      (reads : Reads reading (element.textIn library ++ rest) (reading.push node) rest) :
      ∃ after more, Reading.run more after rest = some final ∧ after.Plain ∧
        Passes library side [element] reading after := by
    obtain ⟨more, read⟩ := reads.resume read
    exact ⟨_, more, read, ⟨plain.flags, plain.outer⟩, .kept (.cons stands .nil) (.push reading node)⟩
  cases element with
  | char own => exact pushed (.char own) (reads_char plain.flags own rest)
  | gap delimiter => exact pushed (.gap delimiter 0) (reads_gap plain.flags delimiter 0 following)
  | placeholder name =>
    obtain ⟨opened, more, index, fresh, outer, read⟩ := run_placeholder plain (accepted name rfl) read
    have outside : ∀ group ∈ opened.outer, group.flags = {} := by
      rw [outer]
      exact List.forall_mem_cons.mpr ⟨rfl, plain.outer⟩
    cases contained name rfl with
    | broken goes start inner fails =>
      rw [Regex.Reading.run_broken goes start inner fails fresh] at read
      contradiction
    | unclosed errs found left settled =>
      obtain ⟨later, rest, kept, longer, read⟩ := Regex.Reading.run_unclosed found left settled fresh outside read
      rw [outer, List.length_cons] at longer
      exact ⟨later, rest, read, kept, .deeper errs longer⟩
    | overclosed errs closes =>
      obtain ⟨later, rest, kept, shorter, read⟩ := Regex.Reading.run_closes closes ⟨fresh.flags, outside⟩ read
      rw [outer, List.length_cons] at shorter
      exact ⟨later, rest, read, kept, .shallower errs (by omega)⟩
    | closed own =>
      obtain ⟨last, found, ended, goesOn⟩ := Regex.Reading.run_closed own
      obtain ⟨later, left, within, read⟩ := goesOn opened _ more final fresh.flags read
      obtain ⟨closed, left, closes, read⟩ := Regex.Reading.run_parenthesis read
      unfold Reading.closeGroup at closes
      rw [within.outer_eq ended, Reading.base, outer] at closes
      cases closes
      have stands : Stands library (.placeholder name)
          ⟨.group index (some (String.ofList name)) later.choice.regex, later.choice.depth + 1⟩ :=
        .placeholder found ended (within.choice (.inr ⟨fresh.items, fresh.branches⟩))
      exact ⟨_, left, read, ⟨rfl, plain.outer⟩,
        .kept (.cons stands .nil) ⟨plain.flags.symm, rfl, rfl, rfl⟩⟩

private theorem run_elements [Regex.Engine] (plain : reading.Plain) {elements : List Element}
    (accepted : ∀ name, .placeholder name ∈ elements → nameRule.accepts name = true)
    (contained : ∀ name, .placeholder name ∈ elements → Regex.Contained side (fragmentOf library name))
    (following : rest.head? ≠ some '?')
    (read : Reading.run fuel reading (elements.flatMap (Element.textIn library) ++ rest) = some final) :
    ∃ after more, Reading.run more after rest = some final ∧ after.Plain ∧
      Passes library side elements reading after := by
  induction elements generalizing reading fuel with
  | nil => exact ⟨reading, fuel, read, plain, .kept .nil (.refl reading)⟩
  | cons element elements ih =>
    rw [List.flatMap_cons, List.append_assoc] at read
    obtain ⟨middle, more, read, kept, first⟩ := run_element plain
      (fun name same => accepted name (by simp [same])) (fun name same => contained name (by simp [same]))
      (texts_head following library elements) read
    obtain ⟨after, more, read, settled, others⟩ := ih kept
      (fun name member => accepted name (.tail _ member))
      (fun name member => contained name (.tail _ member)) read
    exact ⟨after, more, read, settled, first.cons others⟩

private theorem inSequence_takes [Regex.Engine] {sequence : List Regex} (taken : Regex.Engine.takes (inSequence sequence) = true)
    {regex : Regex} (member : regex ∈ sequence) : Regex.Engine.takes regex = true := by
  have folded (rest : List Regex) (first : Regex)
      (taken : Regex.Engine.takes (rest.foldl .concat first) = true) :
      Regex.Engine.takes first = true ∧ ∀ regex ∈ rest, Regex.Engine.takes regex = true := by
    induction rest generalizing first with
    | nil => exact ⟨taken, List.forall_mem_nil _⟩
    | cons second rest ih =>
      obtain ⟨joined, others⟩ := ih (.concat first second) taken
      exact ⟨Regex.Engine.takes_left joined,
        List.forall_mem_cons.mpr ⟨Regex.Engine.takes_right joined, others⟩⟩
  cases sequence with
  | nil => cases member
  | cons first rest =>
    obtain ⟨own, others⟩ := folded rest first taken
    rcases List.mem_cons.mp member with rfl | member
    · exact own
    · exact others regex member

private theorem anchored_takes [Regex.Engine] {body : Regex} (taken : Regex.Engine.takes (anchored body) = true) :
    Regex.Engine.takes body = true :=
  Regex.Engine.takes_right (Regex.Engine.takes_left taken)

private theorem sequence_depth {nodes : List Node} {node : Node} (member : node ∈ nodes) :
    node.depth ≤ (Reading.sequence (nodes.reverse.map .node)).depth := by
  have folded (nodes : List Node) (depth : Nat) :
      depth ≤ nodes.foldl (fun depth node => max depth node.depth) depth ∧
        ∀ node ∈ nodes, node.depth ≤ nodes.foldl (fun depth node => max depth node.depth) depth := by
    induction nodes generalizing depth with
    | nil => simp
    | cons first rest ih =>
      obtain ⟨own, others⟩ := ih (max depth first.depth)
      rw [List.foldl_cons]
      exact ⟨by omega, List.forall_mem_cons.mpr ⟨by omega, others⟩⟩
  have kept : (nodes.reverse.map Regex.Item.node).reverse.filterMap Regex.Item.node? = nodes := by
    rw [← List.map_reverse, List.reverse_reverse, List.filterMap_map]
    exact List.filterMap_some
  have deep := (folded nodes 0).2 node member
  simp only [Reading.sequence, kept]
  split <;> omega

private theorem readPattern_depth (nodes : List Node) (groups : Nat) (names : List String) :
    (Reading.sequence (nodes.reverse.map .node)).depth < (readPattern nodes groups names).choice.depth := by
  let inner := Reading.sequence (nodes.reverse.map .node)
  have member : (⟨inner.regex, inner.depth + 1⟩ : Node) ∈
      [textStart, ⟨inner.regex, inner.depth + 1⟩, ⟨.look .textEnd, 0⟩] := .tail _ (.head _)
  exact sequence_depth member

private theorem Extends.eq_within {outer : List OpenGroup} {nodes : List Node} {groups : Nat} {names : List String}
    {after : Reading} (extended : Extends (within outer [] groups names) nodes after) :
    after = within outer nodes.reverse after.groups after.names := by
  obtain ⟨flags, items, branches, outside, count, known⟩ := after
  rw [within, Reading.mk.injEq]
  exact ⟨extended.flags, extended.items.trans (List.append_nil _), extended.branches, extended.outer,
    rfl, rfl⟩

theorem reads_end [Regex.Engine] (plain : reading.flags = {}) :
    Reads reading ['$'] (reading.push ⟨.look .textEnd, 0⟩) [] := by
  obtain ⟨flags, items, branches, outer, groups, names⟩ := reading
  obtain rfl : flags = {} := plain
  exact .single rfl rfl (Nat.le_refl _)

/-- A group that was opened in a pattern and is left open takes the end of the pattern's group for its own. -/
theorem run_deeper [Regex.Engine] (plain : reading.Plain) (deeper : 1 < reading.outer.length)
    (read : Reading.run fuel reading ")$".toList = some final) : final.outer ≠ [] := by
  obtain ⟨closed, more, closes, read⟩ := Regex.Reading.run_parenthesis read
  unfold Reading.closeGroup at closes
  cases groups : reading.outer with
  | nil => simp [groups] at deeper
  | cons parent others =>
    rw [groups] at closes deeper
    obtain ⟨here, beyond⟩ := List.forall_mem_cons.mp (groups ▸ plain.outer)
    cases closes
    obtain ⟨more, read⟩ := (reads_end here).resume read
    rw [Regex.Reading.run_nil] at read
    cases read
    intro none
    subst none
    exact absurd deeper (by simp)

/-- The expression of a pattern is read as the nodes of its elements, if all fragments are contained. -/
theorem read?_contained [Regex.Engine] {elements : List Element}
    (accepted : ∀ name, .placeholder name ∈ elements → nameRule.accepts name = true)
    (contained : ∀ name, .placeholder name ∈ elements → Regex.Contained side (fragmentOf library name))
    {regex : Regex}
    (read : Regex.read? ("^(?:".toList ++ (elements.flatMap (Element.textIn library) ++ ")$".toList)) =
      some regex) :
    ∃ nodes, List.Forall₂ (Stands library) elements nodes ∧
      regex = anchored (inSequence (nodes.map Node.regex)) ∧
      ∀ node ∈ nodes, node.depth ≤ Regex.greatestNesting ∧ Regex.Engine.takes node.regex = true := by
  obtain ⟨last, whole, sized⟩ := Option.bind_eq_some_iff.mp read
  split at sized
  next ended =>
    obtain ⟨more, inside⟩ := (reads_opened _).resume whole
    have plain : (within [patternGroup] [] 0 []).Plain := ⟨rfl, by simp [within, patternGroup]⟩
    obtain ⟨after, more, inside, plain, passes⟩ := run_elements plain accepted contained (by simp) inside
    cases passes with
    | deeper _ opened => exact absurd ended (run_deeper plain opened inside)
    | shallower _ closed =>
      -- nothing is left for the parenthesis after the elements to close
      obtain ⟨_, _, closes, -⟩ := Regex.Reading.run_parenthesis inside
      rw [Reading.closeGroup, List.length_eq_zero_iff.mp (Nat.lt_one_iff.mp closed)] at closes
      contradiction
    | @kept nodes stand extended =>
      rw [extended.eq_within] at inside
      obtain ⟨more, finished⟩ := (reads_closed nodes _ _).resume inside
      rw [Regex.Reading.run_nil] at finished
      cases finished
      dsimp only at sized
      split at sized
      next fits =>
        cases sized
        rw [readPattern_regex] at fits ⊢
        refine ⟨nodes, stand, rfl, ?_⟩
        intro node member
        have deep := sequence_depth member
        have nested := readPattern_depth nodes after.groups after.names
        have taken := inSequence_takes (anchored_takes fits.2) (List.mem_map_of_mem member)
        exact ⟨by omega, taken⟩
      next => contradiction
  next => contradiction

/-- A fragment whose node is not too large is not too large itself. Its groups come after that of the placeholder. -/
theorem Stands.fragment [Regex.Engine] {name : List Char} {node : Node} (stands : Stands library (.placeholder name) node)
    (shallow : node.depth ≤ Regex.greatestNesting) (taken : Regex.Engine.takes node.regex = true) :
    ∃ regex, Regex.read? (fragmentOf library name) = some regex ∧
      node.regex.groupNames = String.ofList name :: regex.groupNames := by
  cases stands with
  | @placeholder _ _ _ last read ended alike =>
    have nested := alike.depth
    have small : Regex.Engine.takes last.choice.regex = true := by
      rw [← alike.takes]
      exact Regex.Engine.takes_inner taken
    dsimp only at shallow
    refine ⟨last.choice.regex, ?_, ?_⟩
    · rw [read?_of_run read ended, if_pos ⟨by omega, small⟩]
    · exact congrArg (String.ofList name :: ·) alike.groupNames

private theorem Stands.read? [Regex.Engine] {name : List Char} {node : Node} (stands : Stands library (.placeholder name) node)
    (shallow : node.depth ≤ Regex.greatestNesting) (taken : Regex.Engine.takes node.regex = true) :
    (Regex.read? (fragmentOf library name)).isSome = true := by
  obtain ⟨regex, read, -⟩ := stands.fragment shallow taken
  rw [read, Option.isSome_some]

private theorem Stands.of_member [Regex.Engine] {elements : List Element} {nodes : List Node}
    (stand : List.Forall₂ (Stands library) elements nodes) {element : Element} (member : element ∈ elements) :
    ∃ node ∈ nodes, Stands library element node := by
  induction stand with
  | nil => cases member
  | cons first _ ih =>
    rcases List.mem_cons.mp member with rfl | member
    · exact ⟨_, .head _, first⟩
    · obtain ⟨node, later, stands⟩ := ih member
      exact ⟨node, .tail _ later, stands⟩

/-- What an element takes of an input, whatever the fragment of a placeholder may be. -/
def Element.Keeps : Element → List Char → Prop
  | .placeholder _, _ => True
  | element, text => element.Takes text

private theorem Element.char_kept {elements : List Element} {parts : List (List Char)}
    (keeps : List.Forall₂ Element.Keeps elements parts) {own : Char} (member : .char own ∈ elements) :
    own ∈ parts.flatten := by
  induction keeps with
  | nil => cases member
  | cons first _ ih =>
    rw [List.flatten_cons, List.mem_append]
    rcases List.mem_cons.mp member with rfl | member
    · cases first
      exact .inl (.head _)
    · exact .inr (ih member)

private theorem repeated_between (set : Regex.CharSet) (greedy : Bool) (starts : List Place) :
    ∀ stop ∈ (Regex.repeated (.chars set) 0 none greedy).stops starts,
      ∃ place ∈ starts, ∃ text, (∀ char ∈ text, set.contains char = true) ∧
        place.rest = text ++ stop.rest := by
  refine Regex.zeroOrMore_all ?_ greedy ?_
  · rintro middle ⟨place, start, text, members, found⟩ stop member
    obtain ⟨only, single, stepped⟩ := List.mem_filterMap.mp member
    cases List.mem_singleton.mp single
    obtain ⟨char, rest, next, contains, rfl⟩ := Place.step?_eq_some stepped
    refine ⟨place, start, text ++ [char], ?_, ?_⟩
    · exact List.forall_mem_append.mpr ⟨members, by simpa using contains⟩
    · rw [found, next, List.append_assoc, List.singleton_append]
  · exact fun place member => ⟨place, member, [], by simp, rfl⟩

private theorem stops_between (regex : Regex) (starts : List Place) :
    ∀ stop ∈ regex.stops starts, ∃ place ∈ starts, ∃ text, place.rest = text ++ stop.rest := by
  refine Regex.stops_all ?_ ?_ ?_ regex ?_
  · rintro middle next set ⟨place, start, text, found⟩ stepped
    obtain ⟨char, rest, more, -, rfl⟩ := Place.step?_eq_some stepped
    refine ⟨place, start, text ++ [char], ?_⟩
    rw [found, more, List.append_assoc, List.singleton_append]
  · exact fun _ reached => reached
  · rintro middle index ⟨place, start, text, found⟩
    exact ⟨place, start, text, by rw [Place.close_rest, found]⟩
  · exact fun place member => ⟨place, member, [], rfl⟩

private theorem Stands.between [Regex.Engine] {element : Element} {node : Node} (stands : Stands library element node)
    {starts : List Place} {stop : Place} (member : stop ∈ node.regex.stops starts) :
    ∃ place ∈ starts, ∃ text, element.Keeps text ∧ place.rest = text ++ stop.rest := by
  cases stands with
  | char own =>
    obtain ⟨place, start, stepped⟩ := List.mem_filterMap.mp member
    obtain ⟨char, rest, found, contains, rfl⟩ := Place.step?_eq_some stepped
    rw [single_contains, beq_iff_eq] at contains
    subst contains
    exact ⟨place, start, [char], rfl, found⟩
  | gap delimiter index =>
    cases delimiter with
    | tilde =>
      obtain ⟨place, start, text, blank, found⟩ := repeated_between _ true starts stop member
      exact ⟨place, start, text, blank, found⟩
    | pipe =>
      obtain ⟨place, start, text, plain, found⟩ := repeated_between _ false starts stop member
      refine ⟨place, start, text, ?_, found⟩
      intro newline
      have accepted := plain _ newline
      rw [notNewline_contains] at accepted
      contradiction
  | placeholder read ended alike =>
    obtain ⟨place, start, text, found⟩ := stops_between _ starts stop member
    exact ⟨place, start, text, trivial, found⟩

/-- Along the elements of a pattern the input is cut into parts, one for each of them. -/
theorem stands_cut [Regex.Engine] {elements : List Element} {nodes : List Node}
    (stand : List.Forall₂ (Stands library) elements nodes) {starts : List Place} {stop : Place}
    (member : stop ∈ (nodes.map Node.regex).foldl (fun places regex => regex.stops places) starts) :
    ∃ place ∈ starts, ∃ parts, List.Forall₂ Element.Keeps elements parts ∧
      place.rest = parts.flatten ++ stop.rest := by
  induction stand generalizing starts with
  | nil => exact ⟨stop, member, [], .nil, rfl⟩
  | cons first _ ih =>
    obtain ⟨middle, reached, parts, keeps, found⟩ := ih member
    obtain ⟨place, start, text, kept, before⟩ := first.between reached
    refine ⟨place, start, text :: parts, .cons kept keeps, ?_⟩
    rw [before, found, List.flatten_cons, List.append_assoc]

private theorem anchored_cut [Regex.Engine] {elements : List Element} {nodes : List Node}
    (stand : List.Forall₂ (Stands library) elements nodes) {input : List Char} {stop : Place}
    (found : (anchored (inSequence (nodes.map Node.regex))).search? input = some stop) :
    ∃ parts, List.Forall₂ Element.Keeps elements parts ∧ parts.flatten = input := by
  have atStart : (Regex.look .textStart).stops [{ offset := 0, previous := none, rest := input }] =
      [{ offset := 0, previous := none, rest := input }] := rfl
  rw [anchored_search?, Regex.stopAt?, anchored, Regex.stops_concat, Regex.stops_concat, atStart,
    inSequence_stops] at found
  obtain ⟨reached, ended⟩ := List.mem_filter.mp (List.mem_of_head? found)
  obtain ⟨place, start, parts, keeps, whole⟩ := stands_cut stand reached
  have last : stop.rest = [] := by
    cases rest : stop.rest with
    | nil => rfl
    | cons => simp [rest, Regex.Look.holds] at ended
  rw [last, List.append_nil] at whole
  cases List.mem_singleton.mp start
  exact ⟨parts, keeps, whole.symm⟩

end TextScenario.Pattern

namespace TextScenario

open Pattern (Element elements placeholders)

theorem Pattern.fragmentOf_some {library : Library} {name : List Char} {fragment : String}
    (found : library.fragment? (String.ofList name) = some fragment) :
    Pattern.fragmentOf library name = fragment.toList := by
  rw [Pattern.fragmentOf, found]
  rfl

theorem Pattern.fragmentOf_none {library : Library} {name : List Char}
    (missing : library.fragment? (String.ofList name) = none) :
    Pattern.fragmentOf library name = Pattern.defaultFragment := by
  rw [Pattern.fragmentOf, missing]
  rfl

private theorem Pattern.contained_default [Regex.Engine] {side : Regex.Side} : Regex.Contained side Pattern.defaultFragment :=
  .closed ⟨⟨_, rfl, rfl⟩, ⟨_, rfl, rfl⟩⟩

section

variable {pattern : String} {delimiter : Delimiter} {library : Library} {side : Regex.Side}

private theorem Pattern.mem_placeholders {name : List Char} (member : .placeholder name ∈ elements pattern delimiter) :
    String.ofList name ∈ placeholders pattern := by
  rw [← Pattern.names_elements pattern delimiter]
  exact List.mem_filterMap.mpr ⟨_, member, rfl⟩

theorem Pattern.contained_elements [Regex.Engine]
    (contained : ∀ name ∈ placeholders pattern, ∀ fragment, library.fragment? name = some fragment →
      Regex.Contained side fragment.toList) (name : List Char)
    (member : .placeholder name ∈ elements pattern delimiter) :
    Regex.Contained side (Pattern.fragmentOf library name) := by
  cases found : library.fragment? (String.ofList name) with
  | none =>
    rw [Pattern.fragmentOf_none found]
    exact Pattern.contained_default
  | some fragment =>
    rw [Pattern.fragmentOf_some found]
    exact contained _ (Pattern.mem_placeholders member) fragment found

/-- With contained fragments a pattern fails, or is compiled to the nodes of its elements. -/
theorem Pattern.compile_contained [Regex.Engine] (checked : Pattern.check pattern delimiter = .ok ())
    (contained : ∀ name, .placeholder name ∈ elements pattern delimiter →
      Regex.Contained side (Pattern.fragmentOf library name)) :
    PatternCompiler.regular.compile pattern delimiter library = .error .invalidExpression ∨
      ∃ nodes, List.Forall₂ (Pattern.Stands library) (elements pattern delimiter) nodes ∧
        PatternCompiler.regular.compile pattern delimiter library =
          .ok (.ofRegex (Pattern.expression pattern delimiter library)
            (Pattern.anchored (Pattern.inSequence (nodes.map Regex.Node.regex)))) ∧
        ∀ node ∈ nodes, node.depth ≤ Regex.greatestNesting ∧ Regex.Engine.takes node.regex = true := by
  cases read : Regex.read? (Pattern.expression pattern delimiter library).toList with
  | none => exact .inl (Pattern.compile_unread checked read)
  | some regex =>
    have compiled := Pattern.compile_read checked read
    rw [Pattern.expression_toList] at read
    obtain ⟨nodes, stand, rfl, sized⟩ :=
      Pattern.read?_contained (fun _ => Pattern.elementsOf_accepted) contained read
    exact .inr ⟨nodes, stand, compiled, sized⟩

end

private theorem Pattern.contained_only [Regex.Engine] {pattern name fragment : String} {library : Library}
    (only : placeholders pattern = [name]) (found : library.fragment? name = some fragment)
    (contained : Regex.Contained side fragment.toList) :
    ∀ other ∈ placeholders pattern, ∀ own, library.fragment? other = some own →
      Regex.Contained side own.toList := by
  intro other placed own named
  rw [only, List.mem_singleton] at placed
  subst placed
  cases found.symm.trans named
  exact contained

private theorem Pattern.compile_accepts [Regex.Engine] {pattern : String} {delimiter : Delimiter} {library : Library} {input : String}
    (checked : Pattern.check pattern delimiter = .ok ())
    (found : (Regex.read? (Pattern.expression pattern delimiter library).toList).any
      (fun regex => (regex.search? input.toList).isSome) = true) :
    ∃ matcher, PatternCompiler.regular.compile pattern delimiter library = .ok matcher ∧
      matcher.accepts input = true := by
  cases read : Regex.read? (Pattern.expression pattern delimiter library).toList with
  | none =>
    rw [read] at found
    contradiction
  | some regex =>
    rw [read] at found
    exact ⟨_, Pattern.compile_read checked read, found⟩

private def openDigits : Library := .ofList [("n", "([0-9]+")]

private def twoClosed : Library := .ofList [("n", "a)")]

private def amounts : Library := .ofList [("amount", "[0-9]+(?:[.](?P<cents>[0-9]+))?")]

private theorem Regex.contained_openDigits : Regex.Contained .opening "([0-9]+".toList :=
  .unclosed rfl rfl (List.cons_ne_nil _ _) ⟨rfl, List.forall_mem_cons.mpr ⟨rfl, List.forall_mem_nil _⟩⟩

private theorem Regex.contained_closing : Regex.Contained .closing "a)".toList :=
  have letter : Regex.Closed ['a'] := ⟨⟨_, rfl, rfl⟩, ⟨_, rfl, rfl⟩⟩
  have nothing : Regex.Closed [] := ⟨⟨_, rfl, rfl⟩, ⟨_, rfl, rfl⟩⟩
  .overclosed rfl (.next letter (.last nothing))

theorem Regex.contained_amount {side : Regex.Side} : Regex.Contained side "[0-9]+(?:[.](?P<cents>[0-9]+))?".toList :=
  .closed ⟨⟨_, rfl, rfl⟩, ⟨_, rfl, rfl⟩⟩

private def halves : Library := .ofList [("n", "a)|(b")]

end TextScenario
