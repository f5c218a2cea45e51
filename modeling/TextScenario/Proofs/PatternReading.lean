import TextScenario.Proofs.PatternCaptures

/-! Reading the expression of a pattern gives the tree of its elements: escaped characters stand for
themselves, and groups are numbered in the order of the placeholders. -/

namespace TextScenario.Pattern

open Regex (Reading Node OpenGroup)

/-- Reading a part of a text, construct by construct, with what follows it in view. -/
inductive Reads [Regex.Engine] : Reading → List Char → Reading → List Char → Prop
  | done {reading : Reading} {rest : List Char} : Reads reading rest reading rest
  | next {reading middle final : Reading} {char : Char} {text left rest : List Char}
      (plain : reading.flags.ignoreBlanks = false)
      (consumed : reading.next char text = some (middle, left)) (shorter : left.length ≤ text.length)
      (later : Reads middle left final rest) : Reads reading (char :: text) final rest

theorem Reads.trans [Regex.Engine] {reading middle final : Reading} {text left rest : List Char}
    (first : Reads reading text middle left) (second : Reads middle left final rest) :
    Reads reading text final rest := by
  induction first with
  | done => exact second
  | next plain consumed shorter later ih => exact .next plain consumed shorter (ih second)

theorem Reads.single [Regex.Engine] {reading final : Reading} {char : Char} {text rest : List Char}
    (plain : reading.flags.ignoreBlanks = false)
    (consumed : reading.next char text = some (final, rest)) (shorter : rest.length ≤ text.length) :
    Reads reading (char :: text) final rest :=
  .next plain consumed shorter .done

theorem skip_plain {flags : Regex.Flags} (plain : flags.ignoreBlanks = false) (text : List Char) :
    Regex.skip flags text = text := by
  rw [Regex.skip, plain]
  rfl

private theorem Reads.run [Regex.Engine] {reading final : Reading} {text rest : List Char}
    (reads : Reads reading text final rest) (finished : rest = [])
    (plain : final.flags.ignoreBlanks = false) {fuel : Nat} (enough : text.length ≤ fuel) :
    Reading.run fuel reading text = some final := by
  induction reads generalizing fuel with
  | done =>
    subst finished
    cases fuel with
    | zero => rw [Reading.run, skip_plain plain, List.isEmpty_nil, if_pos rfl]
    | succ fuel => rw [Reading.run, skip_plain plain]
  | next here consumed shorter later ih =>
    cases fuel with
    | zero => contradiction
    | succ fuel =>
      rw [Reading.run, skip_plain here]
      dsimp only
      rw [consumed]
      exact ih finished plain (by rw [List.length_cons] at enough; omega)

def Element.text : Element → List Char
  | .char own => escapeChar own
  | .placeholder name => "(?P<".toList ++ name ++ '>' :: defaultFragment ++ [')']
  | .gap delimiter => delimiter.joiner

def Element.textIn (library : Library) : Element → List Char
  | .char own => escapeChar own
  | .placeholder name => pieceExpression library (.placeholder name)
  | .gap delimiter => delimiter.joiner

theorem Element.text_eq : Element.text = Element.textIn {} := by
  funext element
  cases element <;> rfl

def within (outer : List OpenGroup) (items : List Node) (groups : Nat) (names : List String) : Reading :=
  { items := items.map .node, outer, groups, names }

theorem reads_char [Regex.Engine] {reading : Reading} (plain : reading.flags = {}) (own : Char) (rest : List Char) :
    Reads reading (escapeChar own ++ rest) (reading.push ⟨.chars (.single own), 0⟩) rest := by
  obtain ⟨flags, items, branches, outer, groups, names⟩ := reading
  obtain rfl : flags = {} := plain
  rw [escapeChar]
  split
  next special =>
    refine .single rfl ?_ (by simp)
    rw [Regex.isMeta, List.contains_iff_mem] at special
    simp only [List.mem_cons, List.not_mem_nil, or_false] at special
    rcases special with rfl | rfl | rfl | rfl | rfl | rfl | rfl | rfl | rfl | rfl | rfl | rfl | rfl |
      rfl | rfl | rfl | rfl | rfl <;> rfl
  next ordinary =>
    refine .single rfl ?_ (Nat.le_refl _)
    unfold Reading.next
    -- all characters with a meaning of their own are escaped
    split <;> first | exact absurd rfl ordinary | rfl

private theorem repeatLast_greedy {reading : Reading} (plain : reading.flags = {}) (node : Node) (least : Nat)
    (most : Option Nat) {rest : List Char} (following : rest.head? ≠ some '?') :
    (reading.push node).repeatLast least most rest =
      some (reading.push ⟨node.regex.repeating least most true, node.depth + 1⟩, rest) := by
  have greedy : Reading.readLazy rest = (false, rest) := by
    cases rest with
    | nil => rfl
    | cons char rest =>
      have other : char ≠ '?' := by simpa using following
      rw [Reading.readLazy]
      simpa using other
  simp only [Reading.repeatLast, Reading.push, greedy, plain]
  rfl

theorem reads_gap [Regex.Engine] {reading : Reading} (plain : reading.flags = {}) (delimiter : Delimiter) (index : Nat)
    {rest : List Char} (following : rest.head? ≠ some '?') :
    Reads reading (delimiter.joiner ++ rest) (reading.push ⟨(Element.gap delimiter).regex index, 1⟩) rest := by
  have counted : reading.flags.ignoreBlanks = false := by rw [plain]
  cases delimiter with
  | tilde =>
    have blanks : reading.next '\\' ('s' :: '*' :: rest) =
        some (reading.push ⟨.chars (.property .blank), 0⟩, '*' :: rest) := by
      obtain ⟨flags, items, branches, outer, groups, names⟩ := reading
      obtain rfl : flags = {} := plain
      rfl
    refine .next counted blanks (by simp) (.single counted ?_ (Nat.le_refl _))
    exact repeatLast_greedy plain _ 0 none following
  | pipe =>
    obtain ⟨flags, items, branches, outer, groups, names⟩ := reading
    obtain rfl : flags = {} := plain
    refine .next rfl rfl (Nat.le_refl _) (.single rfl ?_ (by simp))
    rfl

private theorem continuesName_of_member {char : Char} (member : nameRule.member char = true) :
    Reading.continuesName char = true := by
  simp only [nameRule, Char.isAlphanum, Bool.or_eq_true] at member
  simp only [Reading.continuesName, Reading.startsName, Reading.isLetter, Reading.isNumber,
    Bool.or_eq_true]
  rcases member with (letter | digit) | underscore
  · exact .inl (.inl (.inl (.inl (.inr (.inl letter)))))
  · exact .inr (.inl digit)
  · exact .inl (.inl (.inl (.inl (.inl underscore))))

private theorem startsName_of_starts {char : Char} (starts : nameRule.starts char = true) :
    Reading.startsName char = true := by
  simp only [nameRule, Bool.or_eq_true] at starts
  simp only [Reading.startsName, Reading.isLetter, Bool.or_eq_true]
  rcases starts with letter | underscore
  · exact .inr (.inl letter)
  · exact .inl underscore

theorem readName_accepted {name : List Char} (accepted : nameRule.accepts name = true) (rest : List Char) :
    Reading.readName (name ++ '>' :: rest) = some (name, rest) := by
  cases name with
  | nil => contradiction
  | cons first others =>
    rw [Text.NameRule.accepts, Bool.and_eq_true] at accepted
    obtain ⟨starts, members⟩ := accepted
    rw [List.all_eq_true] at members
    have unended : ∀ char ∈ first :: others, (char != '>') = true := by
      intro char member
      rw [bne_iff_ne]
      rintro rfl
      exact absurd (members _ member) (by decide)
    have read : (first :: others ++ '>' :: rest).takeWhile (· != '>') = first :: others := by
      rw [List.takeWhile_append_of_pos unended]
      simp
    have continues : others.all Reading.continuesName = true :=
      List.all_eq_true.mpr fun char member =>
        continuesName_of_member (members char (List.mem_cons_of_mem _ member))
    have allowed : (Reading.startsName first && others.all Reading.continuesName) = true := by
      rw [startsName_of_starts starts, continues, Bool.and_true]
    rw [Reading.readName, read, List.drop_left]
    exact if_pos allowed

private theorem openNamed_accepted (outer : List OpenGroup) (items : List Node) (groups : Nat)
    (names : List String) {name : List Char} (accepted : nameRule.accepts name = true)
    (fresh : String.ofList name ∉ names) (rest : List Char) :
    (within outer items groups names).openNamed (name ++ '>' :: rest) =
      some (within
        ({ items := items.map .node, branches := [], flags := {},
           capture := some (groups + 1, some (String.ofList name)) } :: outer)
        [] (groups + 1) (String.ofList name :: names), rest) := by
  have unknown : ¬ names.contains (String.ofList name) = true := by simpa using fresh
  rw [Reading.openNamed, readName_accepted accepted, Option.bind_eq_bind, Option.bind_some]
  exact if_neg unknown

/-- A placeholder opens a group of its own for its fragment. -/
theorem reads_named [Regex.Engine] (outer : List OpenGroup) (items : List Node) (groups : Nat) (names : List String)
    {name : List Char} (accepted : nameRule.accepts name = true) (fresh : String.ofList name ∉ names)
    (rest : List Char) :
    Reads (within outer items groups names) ("(?P<".toList ++ (name ++ '>' :: rest))
      (within
        ({ items := items.map .node, branches := [], flags := {},
           capture := some (groups + 1, some (String.ofList name)) } :: outer)
        [] (groups + 1) (String.ofList name :: names)) rest := by
  have whole : "(?P<".toList ++ (name ++ '>' :: rest) = '(' :: '?' :: 'P' :: '<' :: (name ++ '>' :: rest) := rfl
  have opened : (within outer items groups names).next '(' ('?' :: 'P' :: '<' :: (name ++ '>' :: rest)) =
      some (within
        ({ items := items.map .node, branches := [], flags := {},
           capture := some (groups + 1, some (String.ofList name)) } :: outer)
        [] (groups + 1) (String.ofList name :: names), rest) :=
    openNamed_accepted outer items groups names accepted fresh rest
  rw [whole]
  exact .single rfl opened (by simp; omega)

private theorem reads_placeholder [Regex.Engine] (outer : List OpenGroup) (items : List Node) (groups : Nat)
    (names : List String) {name : List Char} (accepted : nameRule.accepts name = true)
    (fresh : String.ofList name ∉ names) (rest : List Char) :
    Reads (within outer items groups names) ((Element.placeholder name).text ++ rest)
      (within outer (⟨(Element.placeholder name).regex (groups + 1), 2⟩ :: items) (groups + 1)
        (String.ofList name :: names)) rest := by
  have whole : (Element.placeholder name).text ++ rest =
      "(?P<".toList ++ (name ++ '>' :: '.' :: '+' :: '?' :: ')' :: rest) := by
    simp [Element.text, defaultFragment]
  rw [whole]
  refine (reads_named outer items groups names accepted fresh _).trans ?_
  refine .next rfl rfl (Nat.le_refl _) ?_
  refine .next rfl rfl (by simp) ?_
  exact .single rfl rfl (Nat.le_refl _)

private theorem reads_element [Regex.Engine] (outer : List OpenGroup) (items : List Node) (groups : Nat) (names : List String)
    {element : Element}
    (named : ∀ name, element = .placeholder name →
      nameRule.accepts name = true ∧ String.ofList name ∉ names)
    {rest : List Char} (following : rest.head? ≠ some '?') :
    ∃ depth ≤ 2, Reads (within outer items groups names) (element.text ++ rest)
      (within outer (⟨element.regex (groups + 1), depth⟩ :: items) (groups + element.groups)
        (element.name?.toList ++ names)) rest := by
  cases element with
  | char own => exact ⟨0, by omega, reads_char rfl own rest⟩
  | placeholder name =>
    obtain ⟨accepted, fresh⟩ := named name rfl
    exact ⟨2, by omega, reads_placeholder outer items groups names accepted fresh rest⟩
  | gap delimiter => exact ⟨1, by omega, reads_gap rfl delimiter _ following⟩

/-- No element begins with what would make the repetition before it lazy. -/
theorem texts_head {rest : List Char} (following : rest.head? ≠ some '?') (library : Library)
    (elements : List Element) :
    (elements.flatMap (Element.textIn library) ++ rest).head? ≠ some '?' := by
  cases elements with
  | nil => exact following
  | cons element elements =>
    rw [List.flatMap_cons, List.append_assoc]
    rcases element with own | name | ⟨⟨⟩⟩
    · rw [Element.textIn, escapeChar]
      split
      · simp
      next ordinary =>
        have different : own ≠ '?' := fun same => ordinary (same ▸ rfl)
        simpa using different
    all_goals simp [Element.textIn, pieceExpression, Delimiter.joiner]

private theorem reads_elements [Regex.Engine] (outer : List OpenGroup) (items : List Node) (groups : Nat) (known : List String)
    {elements : List Element}
    (accepted : ∀ name, Element.placeholder name ∈ elements → nameRule.accepts name = true)
    (distinct : (names elements).Nodup) (fresh : ∀ name ∈ names elements, name ∉ known)
    {rest : List Char} (following : rest.head? ≠ some '?') :
    ∃ (nodes : List Node) (final : Nat) (used : List String), nodes.map Node.regex = regexes groups elements ∧
      (∀ node ∈ nodes, node.depth ≤ 2) ∧
      Reads (within outer items groups known) (elements.flatMap Element.text ++ rest)
        (within outer (nodes.reverse ++ items) final used) rest := by
  induction elements generalizing items groups known with
  | nil => exact ⟨[], groups, known, rfl, by simp, .done⟩
  | cons element elements ih =>
    have named (name : List Char) (same : element = .placeholder name) :
        nameRule.accepts name = true ∧ String.ofList name ∉ known := by
      subst same
      exact ⟨accepted name (by simp), fresh _ (List.mem_cons_self)⟩
    obtain ⟨depth, shallow, first⟩ :=
      reads_element outer items groups known named (Element.text_eq ▸ texts_head following {} elements)
    rw [names_cons, List.nodup_append] at distinct
    obtain ⟨-, others, apart⟩ := distinct
    rw [names_cons] at fresh
    have later : ∀ name ∈ names elements, name ∉ element.name?.toList ++ known := by
      intro name member either
      rcases List.mem_append.mp either with own | before
      · exact apart name own name member rfl
      · exact fresh name (List.mem_append_right _ member) before
    obtain ⟨nodes, final, used, same, low, reads⟩ := ih
      (⟨element.regex (groups + 1), depth⟩ :: items) (groups + element.groups)
      (element.name?.toList ++ known) (fun name member => accepted name (.tail _ member)) others later
    refine ⟨⟨element.regex (groups + 1), depth⟩ :: nodes, final, used, ?_, ?_, ?_⟩
    · rw [List.map_cons, same, regexes]
    · exact List.forall_mem_cons.mpr ⟨shallow, low⟩
    · rw [List.flatMap_cons, List.append_assoc, List.reverse_cons, List.append_assoc]
      exact first.trans reads

private theorem sequence_nodes (nodes : List Node) :
    (Reading.sequence (nodes.reverse.map .node)).regex = inSequence (nodes.map Node.regex) ∧
      ∀ most, (∀ node ∈ nodes, node.depth ≤ most) →
        (Reading.sequence (nodes.reverse.map .node)).depth ≤ most + 1 := by
  have kept : (nodes.reverse.map Regex.Item.node).reverse.filterMap Regex.Item.node? = nodes := by
    rw [← List.map_reverse, List.reverse_reverse, List.filterMap_map]
    exact List.filterMap_some
  constructor
  · simp only [Reading.sequence, kept]
    cases nodes with
    | nil => rfl
    | cons first rest => rw [List.map_cons, inSequence, List.foldl_map]
  · intro most bounded
    have deepest : nodes.foldl (fun depth node => max depth node.depth) 0 ≤ most := by
      refine List.foldlRecOn nodes _ (motive := fun depth => depth ≤ most) (Nat.zero_le _) ?_
      exact fun depth low node member => Nat.max_le.mpr ⟨low, bounded node member⟩
    simp only [Reading.sequence, kept]
    split <;> omega

theorem read?_of_run [Regex.Engine] {text : List Char} {last : Reading} (read : Reading.run text.length {} text = some last)
    (ended : last.outer = []) :
    Regex.read? text =
      if last.choice.depth ≤ Regex.greatestNesting ∧ Regex.Engine.takes last.choice.regex then
        some last.choice.regex
      else none := by
  rw [Regex.read?, read, Option.bind_eq_bind, Option.bind_some, ended]

def textStart : Node := ⟨.look .textStart, 0⟩

def patternGroup : OpenGroup :=
  { items := [.node textStart], branches := [], flags := {}, capture := none }

/-- What is read in the end, if these nodes were read in the group. -/
def readPattern (nodes : List Node) (groups : Nat) (names : List String) : Reading :=
  let inner := Reading.sequence (nodes.reverse.map .node)
  within [] [⟨.look .textEnd, 0⟩, ⟨inner.regex, inner.depth + 1⟩, textStart] groups names

theorem reads_opened [Regex.Engine] (text : List Char) :
    Reads {} ("^(?:".toList ++ text) (within [patternGroup] [] 0 []) text := by
  have whole : "^(?:".toList ++ text = '^' :: '(' :: '?' :: ':' :: text := by simp
  rw [whole]
  exact .next rfl rfl (Nat.le_refl _) (.single rfl rfl (by simp; omega))

theorem reads_closed [Regex.Engine] (nodes : List Node) (groups : Nat) (names : List String) :
    Reads (within [patternGroup] nodes.reverse groups names) ")$".toList (readPattern nodes groups names) [] :=
  .next rfl rfl (Nat.le_refl _) (.single rfl rfl (Nat.le_refl _))

theorem readPattern_regex (nodes : List Node) (groups : Nat) (names : List String) :
    (readPattern nodes groups names).choice.regex = anchored (inSequence (nodes.map Node.regex)) := by
  rw [← (sequence_nodes nodes).1]
  rfl

/-- The expression of a pattern is read as its tree, if the tree is not too large. -/
theorem read?_texts [Regex.Engine] {elements : List Element}
    (accepted : ∀ name, Element.placeholder name ∈ elements → nameRule.accepts name = true)
    (distinct : (names elements).Nodup) :
    Regex.read? ("^(?:".toList ++ (elements.flatMap Element.text ++ ")$".toList)) =
      if Regex.Engine.takes (tree elements) then some (tree elements) else none := by
  obtain ⟨nodes, final, used, same, shallow, reads⟩ := reads_elements [patternGroup] [] 0 [] accepted
    distinct (by simp) (by simp : ")$".toList.head? ≠ some '?')
  rw [List.append_nil] at reads
  have whole := ((reads_opened _).trans (reads.trans (reads_closed nodes final used))).run rfl rfl
    (Nat.le_refl _)
  have made : (readPattern nodes final used).choice.regex = tree elements := by
    rw [readPattern_regex, same]
    rfl
  have nested : (readPattern nodes final used).choice.depth ≤ Regex.greatestNesting := by
    have inner := (sequence_nodes nodes).2 2 shallow
    have each : ∀ node ∈ [textStart,
        ⟨(Reading.sequence (nodes.reverse.map .node)).regex,
          (Reading.sequence (nodes.reverse.map .node)).depth + 1⟩, ⟨.look .textEnd, 0⟩],
        node.depth ≤ 4 := by
      simp only [List.forall_mem_cons]
      exact ⟨Nat.zero_le _, Nat.succ_le_succ inner, Nat.zero_le _, by simp⟩
    have low : (readPattern nodes final used).choice.depth ≤ 5 := (sequence_nodes _).2 4 each
    exact Nat.le_trans low (by decide)
  rw [read?_of_run whole rfl, made]
  simp only [nested, true_and]

end TextScenario.Pattern
