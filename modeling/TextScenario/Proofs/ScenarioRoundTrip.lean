import TextScenario.Proofs.EnvironmentValues
import TextScenario.Scenario.Written

/-! A written scenario is read back as what it means. Between two items nothing but the pending
comment is carried over, and between two cases nothing at all. -/

namespace TextScenario.Scenario
open Text

private theorem blank_space : isBlank ' ' = true := by decide

private theorem Phrase.ends_solid (phrase : Phrase) :
    (∀ char ∈ phrase.text.head?, isBlank char = false) ∧
      ∀ char ∈ phrase.text.getLast?, isBlank char = false :=
  trim_eq_self_iff.mp phrase.trimmed

theorem Phrase.trim_append (phrase : Phrase) (lead : List Char) (nonempty : lead ≠ [])
    (solid : ∀ char ∈ lead.head?, isBlank char = false) :
    trim (lead ++ phrase.text) = lead ++ phrase.text := by
  obtain ⟨first, rest, rfl⟩ := List.exists_cons_of_ne_nil nonempty
  refine trim_eq_self_iff.mpr ⟨by simpa using solid, ?_⟩
  intro char last
  have ended : (first :: rest ++ phrase.text).getLast? = phrase.text.getLast? := by
    rw [List.getLast?_append, List.getLast?_eq_some_getLast phrase.nonempty, Option.some_or]
  exact phrase.ends_solid.2 char (ended ▸ last)

theorem Phrase.trim_after_space (phrase : Phrase) : trim (' ' :: phrase.text) = phrase.text := by
  rw [trim_cons_blank _ blank_space, phrase.trimmed]

theorem escape_cons (char : Char) (rest : List Char) :
    escape (char :: rest) = (if char = '#' then ['\\', '#'] else [char]) ++ escape rest := rfl

theorem escape_eq_nil_iff {text : List Char} : escape text = [] ↔ text = [] := by
  cases text with
  | nil => simp [escape]
  | cons char rest =>
    rw [escape_cons]
    split <;> simp

theorem newline_mem_escape_iff {text : List Char} : '\n' ∈ escape text ↔ '\n' ∈ text := by
  induction text with
  | nil => simp [escape]
  | cons char rest ih =>
    rw [escape_cons]
    split
    next hash => simp [ih, hash]
    next => simp [ih]

private theorem escape_head_ne (text : List Char) : (escape text).head? ≠ some '#' := by
  cases text with
  | nil => simp [escape]
  | cons char rest =>
    rw [escape_cons]
    split
    · simp
    next other => simpa using other

private theorem escape_trimmed {text : List Char} (trimmed : trim text = text) :
    trim (escape text) = escape text := by
  obtain ⟨first, last⟩ := trim_eq_self_iff.mp trimmed
  have backslash : isBlank '\\' = false := by decide
  refine trim_eq_self_iff.mpr ⟨?_, ?_⟩
  · cases text with
    | nil => simp [escape]
    | cons char rest =>
      rw [escape_cons]
      split
      · simp [backslash]
      · simpa using first
  · rcases List.eq_nil_or_concat text with rfl | ⟨rest, char, same⟩
    · simp [escape]
    · rw [List.concat_eq_append] at same
      subst same
      have solid : isBlank char = false := by simpa using last
      have ending : escape (rest ++ [char]) = escape rest ++ if char = '#' then ['\\', '#'] else [char] := by
        simp [escape]
      rw [ending]
      split
      next hash => simpa [hash] using solid
      · simpa using solid

private theorem splitComment_escape (text rest : List Char) (other : rest.head? ≠ some '#') :
    splitComment (escape text ++ rest) = (text ++ (splitComment rest).1, (splitComment rest).2) := by
  induction text with
  | nil => rfl
  | cons char text ih =>
    rw [escape_cons]
    by_cases hash : char = '#'
    · subst hash
      simp [splitComment, ih]
    · have next : (escape text ++ rest).head? ≠ some '#' := by
        rw [List.head?_append]
        cases seen : (escape text).head? with
        | none => simpa using other
        | some first => exact fun same => escape_head_ne text (seen.trans same)
      rw [if_neg hash, List.singleton_append, List.cons_append, splitComment, ih]
      · rfl
      · intro after _ same
        exact next (by simp [same])
      · exact hash

private theorem inlineComment_bare (action : Phrase) :
    inlineComment (escape action.text) = (action.text, none) := by
  have split := splitComment_escape action.text [] (by simp)
  rw [List.append_nil] at split
  simp [inlineComment, split, splitComment, action.trimmed]

private theorem inlineComment_note (action note : Phrase) :
    inlineComment (escape action.text ++ ' ' :: note.commentLine) = (action.text, some note.text) := by
  obtain ⟨first, rest, found⟩ := List.exists_cons_of_ne_nil note.nonempty
  have comment : splitComment (' ' :: note.commentLine) = ([' '], some note.text) := by
    rw [Phrase.commentLine, splitComment, splitComment, note.trim_after_space, found]
    all_goals simp
  have split := splitComment_escape action.text (' ' :: note.commentLine) (by simp)
  rw [comment] at split
  simp [inlineComment, split, trim_concat_blank _ blank_space, action.trimmed]

private theorem length_le_escape (text : List Char) : text.length ≤ (escape text).length := by
  induction text with
  | nil => exact Nat.le_refl _
  | cons char rest ih =>
    rw [escape_cons, List.length_append, List.length_cons]
    split <;> simp only [List.length_cons, List.length_nil] <;> omega

/-- A lead without marks that is found before an escaped text was there before it was escaped. -/
theorem prefix_of_escape {lead text rest : List Char} (unescaped : '\\' ∉ lead)
    (other : ∀ char ∈ rest.head?, char ∉ lead) (starts : lead <+: escape text ++ rest) :
    lead <+: text := by
  induction lead generalizing text with
  | nil => exact List.nil_prefix
  | cons char lead ih =>
    cases text with
    | nil =>
      obtain ⟨after, same⟩ := starts
      have found : char ∈ rest.head? := by
        have split : rest = char :: (lead ++ after) := same.symm
        simp [split]
      exact absurd List.mem_cons_self (other char found)
    | cons first text =>
      rw [escape_cons] at starts
      split at starts
      next => simp_all
      next =>
        obtain ⟨same, later⟩ := List.cons_prefix_cons.mp starts
        subst same
        refine List.cons_prefix_cons.mpr ⟨rfl, ih ?_ ?_ later⟩
        · exact fun member => unescaped (List.mem_cons_of_mem _ member)
        · exact fun next found member => other next found (List.mem_cons_of_mem _ member)

private theorem ofTrimmed_action {text : List Char} (nonempty : text ≠ []) (marker : text ≠ blockOpenMarker)
    (comment : text.head? ≠ some '#') (separator : ¬ ['-', '-', '-'] <+: text) :
    Line.ofTrimmed text = .action text := by
  have untitled : caseTitle? text = none := by
    unfold caseTitle?
    split <;> simp at comment ⊢
  rw [Line.ofTrimmed, if_neg marker, if_neg nonempty, untitled]
  · intro rest same
    simp [same] at comment
  · intro rest same
    exact separator (by simp [same])

private theorem Instruction.ofTrimmed (action : Instruction) (rest : List Char)
    (tail : rest = [] ∨ rest.head? = some ' ') :
    Line.ofTrimmed (escape action.text ++ rest) = .action (escape action.text ++ rest) := by
  have nonempty : escape action.text ≠ [] := fun empty => action.nonempty (escape_eq_nil_iff.mp empty)
  have other : ∀ char ∈ rest.head?, char = ' ' := by
    rcases tail with rfl | space
    · simp
    · simp [space]
  refine ofTrimmed_action (by simp [nonempty]) ?_ ?_ ?_
  · intro same
    rcases tail with rfl | space
    · rw [List.append_nil] at same
      have starts : blockOpenMarker <+: escape action.text ++ [] := by simp [same]
      have found := prefix_of_escape (by decide) (by simp) starts
      have shorter := length_le_escape action.text
      rw [same] at shorter
      exact action.noMarker (found.eq_of_length_le shorter).symm
    · have impossible : ' ' ∈ blockOpenMarker :=
        same ▸ List.mem_append_right _ (List.mem_of_mem_head? space)
      exact absurd impossible (by decide)
  · rw [List.head?_append, List.head?_eq_some_head nonempty, Option.some_or, ← List.head?_eq_some_head]
    exact escape_head_ne action.text
  · intro starts
    refine action.noSeparator (prefix_of_escape (by decide) ?_ starts)
    intro char found
    rw [other char found]
    decide

private theorem Phrase.ofTrimmed_comment (note : Phrase) : Line.ofTrimmed note.commentLine = .comment note.text := by
  have untitled : caseTitle? note.commentLine = none := by simp [Phrase.commentLine, caseTitle?]
  have marker : note.commentLine ≠ blockOpenMarker := by simp [Phrase.commentLine, blockOpenMarker]
  have nonempty : note.commentLine ≠ [] := by simp [Phrase.commentLine]
  simp only [Line.ofTrimmed, if_neg marker, if_neg nonempty, untitled]
  simp only [Phrase.commentLine, note.trim_after_space]

private theorem Phrase.ofTrimmed_title (title : Phrase) :
    Line.ofTrimmed (Header.titled title).line = .title title.text := by
  have titled : caseTitle? (Header.titled title).line = some title.text := by
    simp [Header.line, caseTitle?, blank_space, title.trim_after_space]
  have marker : (Header.titled title).line ≠ blockOpenMarker := by simp [Header.line, blockOpenMarker]
  have nonempty : (Header.titled title).line ≠ [] := by simp [Header.line]
  simp only [Line.ofTrimmed, if_neg marker, if_neg nonempty, titled]

private theorem Phrase.commentLine_trimmed (note : Phrase) : trim note.commentLine = note.commentLine :=
  note.trim_append ['#', ' '] (by simp) (by simp; decide)

theorem Header.line_trimmed (header : Header) : trim header.line = header.line := by
  cases header with
  | titled title => exact title.trim_append ['#', '#', ' '] (by simp) (by simp; decide)
  | bare => decide
  | separator => decide

private theorem Instruction.line_trimmed (action : Instruction) : trim (escape action.text) = escape action.text :=
  escape_trimmed action.trimmed

private theorem Instruction.line_with_note_trimmed (action : Instruction) (note : Phrase) :
    trim (escape action.text ++ ' ' :: note.commentLine) = escape action.text ++ ' ' :: note.commentLine := by
  have shape : escape action.text ++ ' ' :: note.commentLine =
      (escape action.text ++ [' ', '#', ' ']) ++ note.text := by simp [Phrase.commentLine]
  rw [shape]
  refine note.trim_append _ (by simp) ?_
  have nonempty : escape action.text ≠ [] := fun empty => action.nonempty (escape_eq_nil_iff.mp empty)
  have solid := (trim_eq_self_iff.mp action.line_trimmed).1
  rw [List.head?_append, List.head?_eq_some_head nonempty, Option.some_or, ← List.head?_eq_some_head]
  exact solid

namespace Draft
variable (environment : Environment)

private theorem feed_outside {draft : Draft} {line : List Char} (outside : draft.block = none)
    (trimmed : trim line = line) :
    draft.feed environment line = draft.take environment (.ofTrimmed line) := by
  rw [feed, dropReturn_of_trim trimmed, trimmed, outside]

private theorem take_step {draft : Draft} {case : Case} (inside : draft.current = some case)
    (action : Instruction) (text : List Char) (note : Option Phrase)
    (split : inlineComment text = (action.text, note.map Phrase.text)) :
    draft.take environment (.action text) = draft.addStep
      { action := environment.expand (String.ofList action.text)
        comment := (note.map fun note => environment.expand (String.ofList note.text)).orElse
          fun _ => draft.pending } := by
  have kept : environment.expandChars action.text ≠ [] :=
    environment.expandChars_ne_nil action.nonempty
  simp [take, inside, addAction, split, kept, Environment.expand, Function.comp_def]

private theorem feed_content (draft : Draft) (kept : List (List Char)) (content : List BlockLine) :
    (content.map BlockLine.text).foldl (feed environment) { draft with block := some kept } =
      { draft with block := some (kept ++ content.map BlockLine.text) } := by
  induction content generalizing kept with
  | nil => simp
  | cons line content ih =>
    have added : feed environment { draft with block := some kept } line.text =
        { draft with block := some (kept ++ [line.text]) } := by
      simp [feed, dropReturn_of_getLast? line.noReturn, line.noMarker]
    rw [List.map_cons, List.foldl_cons, added, ih, List.append_assoc, List.singleton_append]

private theorem feed_block {draft : Draft} {case : Case} (outside : draft.block = none)
    (inside : draft.current = some case) (first : BlockLine) (rest : List BlockLine) :
    (Item.block first rest).lines.foldl (feed environment) draft = draft.addStep
      { action := String.ofList (joinWith '\n' ((first :: rest).map BlockLine.text))
        comment := draft.pending
        isMultiline := true } := by
  have opened : feed environment draft blockOpenMarker = { draft with block := some [] } := by
    rw [feed_outside environment outside (by decide)]
    rfl
  have closed (lines : List (List Char)) :
      feed environment { draft with block := some lines } blockCloseMarker =
        closeBlock { draft with block := some lines } lines := by
    have marker : trim (dropReturn blockCloseMarker) = blockCloseMarker := by decide
    simp [feed, marker]
  rw [Item.lines, List.foldl_cons, opened, List.foldl_append, feed_content, List.foldl_cons, closed]
  simp [closeBlock, addStep, inside, outside]

def afterItem (draft : Draft) (item : Item) (case : Case) : Draft :=
  { draft with
    current := some
      { case with
        comments := case.comments ++ item.comment?.toList
        steps := case.steps ++ stepsOf environment draft.pending [item] }
    pending := item.comment? }

private theorem feed_item {draft : Draft} {case : Case} (outside : draft.block = none)
    (inside : draft.current = some case) (item : Item) :
    item.lines.foldl (feed environment) draft = afterItem environment draft item case := by
  cases item with
  | comment note =>
    obtain ⟨first, rest, found⟩ := List.exists_cons_of_ne_nil note.nonempty
    rw [Item.lines, List.foldl_cons, List.foldl_nil,
      feed_outside environment outside note.commentLine_trimmed, note.ofTrimmed_comment]
    simp [take, addComment, inside, found, afterItem, Item.comment?, stepsOf]
  | step action note =>
    cases note with
    | none =>
      have line := action.ofTrimmed [] (.inl rfl)
      rw [List.append_nil] at line
      rw [Item.lines, List.foldl_cons, List.foldl_nil,
        feed_outside environment outside action.line_trimmed, line,
        take_step environment inside action _ none (inlineComment_bare action.toPhrase)]
      simp [addStep, afterItem, Item.comment?, stepsOf, inside]
    | some note =>
      have line := action.ofTrimmed (' ' :: note.commentLine) (.inr rfl)
      rw [Item.lines, List.foldl_cons, List.foldl_nil,
        feed_outside environment outside (action.line_with_note_trimmed note), line,
        take_step environment inside action _ (some note) (inlineComment_note action.toPhrase note)]
      simp [addStep, afterItem, Item.comment?, stepsOf, inside]
  | block first rest =>
    rw [feed_block environment outside inside]
    simp [addStep, afterItem, Item.comment?, stepsOf, inside]

theorem stepsOf_cons (pending : Option String) (item : Item) (rest : List Item) :
    stepsOf environment pending (item :: rest) =
      stepsOf environment pending [item] ++ stepsOf environment item.comment? rest := by
  cases item <;> simp [stepsOf, Item.comment?]

private theorem feed_items {draft : Draft} {case : Case} (outside : draft.block = none)
    (inside : draft.current = some case) (items : List Item) :
    ∃ pending, (items.flatMap Item.lines).foldl (feed environment) draft =
      { draft with
        current := some
          { case with
            comments := case.comments ++ items.filterMap Item.comment?
            steps := case.steps ++ stepsOf environment draft.pending items }
        pending } := by
  induction items generalizing draft case with
  | nil => exact ⟨draft.pending, by simp [stepsOf, ← inside]⟩
  | cons item items ih =>
    obtain ⟨pending, rest⟩ := @ih (afterItem environment draft item case) _ outside rfl
    refine ⟨pending, ?_⟩
    rw [List.flatMap_cons, List.foldl_append, feed_item environment outside inside, rest,
      stepsOf_cons environment draft.pending item items, List.filterMap_cons]
    cases seen : item.comment? <;> simp [afterItem, seen]

/-- A header opens a case, unless it is a separator with no case before it. -/
theorem feed_header {draft : Draft} (outside : draft.block = none) (header : Header)
    (opened : header = .separator → draft.current.isSome = true) :
    draft.feed environment header.line =
      draft.openCase (header.name (draft.cases.length + 1)) := by
  rw [feed_outside environment outside header.line_trimmed]
  cases header with
  | titled title =>
    obtain ⟨first, rest, found⟩ := List.exists_cons_of_ne_nil title.nonempty
    rw [title.ofTrimmed_title, found, take, ← found]
    · rfl
    · simp
  | bare => rfl
  | separator =>
    have line : Line.ofTrimmed Header.separator.line = .separator := rfl
    rw [line, take, if_pos (opened rfl)]
    rfl

/-- A written case is added to the cases before it, whatever was pending there. -/
theorem feed_case {draft : Draft} (outside : draft.block = none) (case : WrittenCase)
    (opened : case.header = .separator → draft.current.isSome = true) :
    let after := case.lines.foldl (feed environment) draft
    after.block = none ∧ after.current.isSome = true ∧
      after.cases = draft.cases ++ [case.meaning environment (draft.cases.length + 1)] := by
  have header := feed_header environment outside case.header opened
  obtain ⟨pending, items⟩ := @feed_items environment
    (draft.openCase (case.header.name (draft.cases.length + 1))) _ rfl rfl case.items
  simp only [WrittenCase.lines, List.foldl_cons, header, items]
  refine ⟨rfl, rfl, ?_⟩
  simp [cases, openCase, WrittenCase.meaning]

private theorem feed_cases {draft : Draft} (outside : draft.block = none) (written : List WrittenCase)
    (opened : draft.current.isSome = true ∨ ∀ case ∈ written.head?, case.header ≠ .separator) :
    ((written.flatMap WrittenCase.lines).foldl (feed environment) draft).finish =
      draft.cases ++
        written.mapIdx fun index case => case.meaning environment (draft.cases.length + index + 1) := by
  induction written generalizing draft with
  | nil => simp [finish, outside]
  | cons case written ih =>
    have first : case.header = .separator → draft.current.isSome = true := by
      intro separator
      rcases opened with inside | titled
      · exact inside
      · exact absurd separator (titled case (by simp))
    obtain ⟨closed, inside, added⟩ := feed_case environment outside case first
    rw [List.flatMap_cons, List.foldl_append, ih closed (.inl inside), added]
    simp [List.mapIdx_cons, Nat.add_assoc, Nat.add_comm 1]

end Draft

private theorem Item.line_clean (item : Item) {line : List Char} (member : line ∈ item.lines) :
    '\n' ∉ line ∧ line.getLast? ≠ some '\r' := by
  cases item with
  | comment note =>
    obtain rfl := List.mem_singleton.mp member
    exact ⟨by simp [Phrase.commentLine, note.oneLine], getLast?_ne_return note.commentLine_trimmed⟩
  | step action note =>
    cases note with
    | none =>
      obtain rfl := List.mem_singleton.mp member
      exact ⟨by simp [newline_mem_escape_iff, action.oneLine], getLast?_ne_return action.line_trimmed⟩
    | some note =>
      obtain rfl := List.mem_singleton.mp member
      refine ⟨?_, getLast?_ne_return (action.line_with_note_trimmed note)⟩
      simp [Phrase.commentLine, newline_mem_escape_iff, action.oneLine, note.oneLine]
  | block first rest =>
    rcases List.mem_cons.mp member with rfl | inside
    · decide
    rcases List.mem_append.mp inside with kept | last
    · obtain ⟨content, _, rfl⟩ := List.mem_map.mp kept
      exact ⟨content.oneLine, content.noReturn⟩
    · obtain rfl := List.mem_singleton.mp last
      decide

private theorem WrittenCase.line_clean (case : WrittenCase) {line : List Char} (member : line ∈ case.lines) :
    '\n' ∉ line ∧ line.getLast? ≠ some '\r' := by
  rcases List.mem_cons.mp member with rfl | inside
  · refine ⟨?_, getLast?_ne_return case.header.line_trimmed⟩
    cases case.header with
    | titled title => simp [Header.line, title.oneLine]
    | bare => decide
    | separator => decide
  · obtain ⟨item, _, found⟩ := List.mem_flatMap.mp inside
    exact item.line_clean found

/-- Reading what was written gives the cases that were meant, in order, under any environment. -/
theorem parse_write (environment : Environment) (written : List WrittenCase)
    (opened : ∀ case ∈ written.head?, case.header ≠ .separator) :
    parse environment (write written) =
      written.mapIdx fun index case => case.meaning environment (index + 1) := by
  have clean {line : List Char} (member : line ∈ written.flatMap WrittenCase.lines) :
      '\n' ∉ line ∧ line.getLast? ≠ some '\r' := by
    obtain ⟨case, _, found⟩ := List.mem_flatMap.mp member
    exact case.line_clean found
  rw [parse, write, String.toList_ofList, parseChars,
    lines_ended (fun line member => (clean member).1) (fun line member => (clean member).2),
    Draft.feed_cases environment rfl written (.inr opened)]
  simp [Draft.cases, Draft.empty]

private def phrase (text : String) (trimmed : trim text.toList = text.toList := by decide)
    (nonempty : text.toList ≠ [] := by decide) (oneLine : '\n' ∉ text.toList := by decide) : Phrase :=
  ⟨text.toList, trimmed, nonempty, oneLine⟩

private def shopping : List WrittenCase :=
  [{ header := .titled (phrase "## Cart")
     items :=
       [.comment (phrase "# first"),
        .block ⟨"  a \\# b".toList, by decide, by decide, by decide⟩
          [⟨"\"+\"".toList, by decide, by decide, by decide⟩],
        .step ⟨phrase "open #%PAGE%\\#", by decide, by decide⟩ (some (phrase "#%PAGE%"))] },
   { header := .separator
     items := [.comment (phrase "last"), .step ⟨phrase "\"-\"", by decide, by decide⟩ none] }]

theorem parse_write_shopping :
    (∀ case ∈ shopping.head?, case.header ≠ .separator) ∧
      parse ⟨[("PAGE", "#")]⟩ (write shopping) =
        [{ name := "## Cart"
           comments := ["# first"]
           steps :=
             [{ action := "  a \\# b\n\"+\"", comment := some "# first", isMultiline := true },
              { action := "open ##\\#", comment := some "##" }] },
         { name := "Untitled case 2"
           comments := ["last"]
           steps := [{ action := "\"-\"", comment := some "last" }] }] := by
  have opened : ∀ case ∈ shopping.head?, case.header ≠ .separator := by simp [shopping]
  refine ⟨opened, (parse_write _ shopping opened).trans ?_⟩
  rfl

end TextScenario.Scenario
