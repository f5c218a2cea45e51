import TextScenario.Proofs.ScenarioParts
import TextScenario.Proofs.ScenarioRoundTrip

/-! Texts are read one after another. A header leaves nothing of the case before it behind, so the cases
of a text do not depend on what stands before its first header, except for the numbers in their names.
The end of a text closes the block that it is in. -/

namespace TextScenario

def Case.body (case : Case) : List String × List Step :=
  (case.comments, case.steps)

namespace Scenario
open Text

theorem caseTitle?_eq (text : List Char) :
    caseTitle? text = if (Part.line text).isHeader then some (trim (text.drop 2)) else none := by
  have titled := caseTitle?_isSome text
  unfold caseTitle? at titled ⊢
  split at titled
  · rfl
  next char rest =>
    cases blank : isBlank char <;> simp [Part.isHeader, caseMarker, blank]
  · simp [← titled]

private theorem ofTrimmed_header {text : List Char} (header : (Part.line text).isHeader = true) :
    Line.ofTrimmed text = .title (trim (text.drop 2)) := by
  have first := Part.head_of_isHeader header
  have marker : text ≠ blockOpenMarker := by
    rintro rfl
    cases first
  have nonempty : text ≠ [] := by
    rintro rfl
    cases first
  have titled : caseTitle? text = some (trim (text.drop 2)) := by rw [caseTitle?_eq, if_pos header]
  simp only [Line.ofTrimmed, if_neg marker, if_neg nonempty, titled]

private theorem ofTrimmed_separator {text : List Char} (begun : separatorMarker <+: text) :
    Line.ofTrimmed text = .separator := by
  obtain ⟨rest, rfl⟩ := begun
  simp [Line.ofTrimmed, separatorMarker, blockOpenMarker, caseTitle?]

namespace Draft
variable (environment : Environment)

def names (draft : Draft) : List String :=
  draft.cases.map (·.name)

private theorem openCase_names (draft : Draft) (name : String) :
    (draft.openCase name).names = draft.names ++ [name] := by
  simp [names, cases, openCase]

private theorem addStep_names (draft : Draft) (step : Step) : (draft.addStep step).names = draft.names := by
  cases current : draft.current <;> simp [names, cases, addStep, current]

private theorem addComment_names (draft : Draft) (text : List Char) :
    (draft.addComment text).names = draft.names := by
  unfold addComment
  split
  next case _ _ found => simp [names, cases, found]
  next => rfl

private theorem closeBlock_names (draft : Draft) (lines : List (List Char)) :
    (draft.closeBlock lines).names = draft.names := by
  unfold closeBlock
  dsimp only
  split
  · rfl
  · exact addStep_names _ _

private theorem addAction_names (draft : Draft) (text : List Char) :
    (draft.addAction environment text).names = draft.names := by
  unfold addAction
  dsimp only
  split
  · rfl
  · exact addStep_names _ _

private theorem takePart_opening {draft : Draft} {part : Part} {title : List Char}
    (opening : part.opening? = some title)
    (opened : part.isHeader = true ∨ draft.current.isSome = true) :
    draft.takePart environment part =
      draft.openCase (caseName (draft.cases.length + 1) title) := by
  cases part with
  | block lines => cases opening
  | line text =>
    rw [Part.opening?] at opening
    rw [takePart]
    split at opening
    next header =>
      cases opening
      rw [ofTrimmed_header header]
      cases trim (text.drop 2) <;> rfl
    next noHeader =>
      split at opening
      next begun =>
        cases opening
        rw [ofTrimmed_separator (List.isPrefixOf_iff_prefix.mp begun), take,
          if_pos (opened.resolve_left noHeader)]
        rfl
      next => cases opening

private theorem takePart_names {draft : Draft} {part : Part} (clean : part.Clean)
    (noOpening : part.opening? = none) : (draft.takePart environment part).names = draft.names := by
  cases part with
  | block lines => exact closeBlock_names draft _
  | line text =>
    have said := Line.of_ofTrimmed clean.2
    rw [Part.opening?] at noOpening
    rw [takePart]
    generalize Line.ofTrimmed text = line at said
    cases said with
    | blank => rfl
    | title header => simp [header] at noOpening
    | comment _ _ note => exact addComment_names draft note
    | separator begun =>
      rw [if_pos (List.isPrefixOf_iff_prefix.mpr begun)] at noOpening
      split at noOpening <;> cases noOpening
    | action =>
      rw [take]
      split
      · exact addAction_names environment draft text
      · rfl

private theorem cases_length (draft : Draft) : draft.cases.length = draft.names.length :=
  (List.length_map _).symm

private theorem foldl_takePart_names {draft : Draft} (inside : draft.current.isSome = true)
    {parts : List Part} (clean : ∀ part ∈ parts, part.Clean) :
    (parts.foldl (takePart environment) draft).names =
      draft.names ++ (parts.filterMap Part.opening?).mapIdx fun index title =>
        caseName (draft.names.length + index + 1) title := by
  induction parts generalizing draft with
  | nil => simp
  | cons part rest ih =>
    have here := clean part (.head _)
    have later : ∀ other ∈ rest, other.Clean := fun other member => clean other (.tail _ member)
    obtain ⟨added, -, grown⟩ := takePart_grows environment inside here
    rw [List.foldl_cons, ih grown.inside later]
    cases opening : part.opening? with
    | none => rw [takePart_names environment here opening, List.filterMap_cons_none opening]
    | some title =>
      rw [takePart_opening environment opening (.inr inside), openCase_names, cases_length,
        List.filterMap_cons_some opening, List.mapIdx_cons, List.append_assoc]
      simp [Nat.add_assoc, Nat.add_comm 1]

/-- Two drafts that have read the same parts, one of them after other cases. Only the names of their
cases may differ. -/
structure Beside (before : List Case) (alone after : Draft) : Prop where
  closed : after.closed.map Case.body = (before ++ alone.closed).map Case.body
  current : after.current.map Case.body = alone.current.map Case.body
  pending : after.pending = alone.pending

namespace Beside
variable {environment} {before : List Case} {alone after : Draft}

private theorem cases (same : Beside before alone after) :
    after.cases.map Case.body = (before ++ alone.cases).map Case.body := by
  have current := congrArg Option.toList same.current
  simp only [Option.toList_map] at current
  simp [Draft.cases, same.closed, current]

private theorem isSome (same : Beside before alone after) : after.current.isSome = alone.current.isSome := by
  have present := congrArg Option.isSome same.current
  simpa only [Option.isSome_map] using present

private theorem openCase (same : Beside before alone after) (name other : String) :
    Beside before (alone.openCase name) (after.openCase other) :=
  ⟨same.cases, rfl, rfl⟩

private theorem addStep (same : Beside before alone after) (step : Step) :
    Beside before (alone.addStep step) (after.addStep step) := by
  refine ⟨same.closed, ?_, rfl⟩
  have added := congrArg (Option.map fun body : List String × List Step => (body.1, body.2 ++ [step]))
    same.current
  simp only [Option.map_map] at added
  simp only [Draft.addStep, Option.map_map]
  exact added

private theorem addComment (same : Beside before alone after) (text : List Char) :
    Beside before (alone.addComment text) (after.addComment text) := by
  cases found : alone.current with
  | none =>
    have absent : after.current = none := by simpa [found] using same.current
    simpa only [Draft.addComment, found, absent] using same
  | some case =>
    obtain ⟨other, present, body⟩ :=
      Option.map_eq_some_iff.mp (same.current.trans (congrArg (Option.map Case.body) found))
    cases text with
    | nil => simpa only [Draft.addComment, found, present] using same
    | cons first rest =>
      obtain ⟨comments, steps⟩ := Prod.mk.inj body
      simp only [Draft.addComment, found, present]
      refine ⟨same.closed, ?_, rfl⟩
      simp only [Option.map_some, Case.body, comments, steps]

private theorem closeBlock (same : Beside before alone after) (lines : List (List Char)) :
    Beside before (alone.closeBlock lines) (after.closeBlock lines) := by
  have outside : Beside before { alone with block := none } { after with block := none } :=
    ⟨same.closed, same.current, same.pending⟩
  have none : after.current.isNone = alone.current.isNone := by
    rw [← Option.not_isSome, ← Option.not_isSome, same.isSome]
  unfold Draft.closeBlock
  dsimp only
  rw [none]
  split
  · exact outside
  · rw [same.pending]
    exact outside.addStep _

private theorem addAction (same : Beside before alone after) (text : List Char) :
    Beside before (alone.addAction environment text) (after.addAction environment text) := by
  unfold Draft.addAction
  dsimp only
  rw [same.pending]
  split
  · exact ⟨same.closed, same.current, rfl⟩
  · exact same.addStep _

private theorem take (same : Beside before alone after) (line : Line) :
    Beside before (alone.take environment line) (after.take environment line) := by
  cases line with
  | blank => exact same
  | blockOpen => exact ⟨same.closed, same.current, same.pending⟩
  | title name => cases name <;> exact same.openCase _ _
  | comment text => exact same.addComment text
  | separator =>
    simp only [Draft.take, same.isSome]
    split
    · exact same.openCase _ _
    · exact same
  | action text =>
    simp only [Draft.take, same.isSome]
    split
    · exact same.addAction text
    · exact same

private theorem takePart (same : Beside before alone after) (part : Part) :
    Beside before (alone.takePart environment part) (after.takePart environment part) := by
  cases part with
  | line text => exact same.take _
  | block lines => exact same.closeBlock _

private theorem foldl_takePart (same : Beside before alone after) (parts : List Part) :
    Beside before (parts.foldl (Draft.takePart environment) alone)
      (parts.foldl (Draft.takePart environment) after) := by
  induction parts generalizing alone after with
  | nil => exact same
  | cons part rest ih => exact ih (same.takePart part)

end Beside

theorem feed_inside (draft : Draft) (line : List Char) :
    (draft.feed environment line).block.isSome = insideAfter draft.block.isSome line := by
  rw [feed, trim_dropReturn]
  cases block : draft.block with
  | some lines =>
    dsimp only
    split
    next closed => simp [insideAfter, staysInside, closed, closeBlock_block]
    next stays => simp [insideAfter, staysInside, stays]
  | none =>
    dsimp only
    by_cases opened : trim line = blockOpenMarker
    · rw [opened]
      simp [insideAfter, opened, Line.ofTrimmed, take]
    · have clean : (Part.line (trim line)).Clean := ⟨trim_trim line, opened⟩
      have outside : (draft.take environment (.ofTrimmed (trim line))).block = none :=
        takePart_block environment block clean
      simp [outside, insideAfter, opened]

private theorem foldl_feed_inside (draft : Draft) (lines : List (List Char)) :
    (lines.foldl (feed environment) draft).block.isSome =
      lines.foldl insideAfter draft.block.isSome := by
  induction lines generalizing draft with
  | nil => rfl
  | cons line rest ih => rw [List.foldl_cons, List.foldl_cons, ih, feed_inside]

/-- A line that closes a block does what the end of the text does. -/
theorem feed_close {draft : Draft} (inside : draft.block.isSome = true) {line : List Char}
    (closes : trim line = blockCloseMarker) : (draft.feed environment line).finish = draft.finish := by
  obtain ⟨lines, block⟩ := Option.isSome_iff_exists.mp inside
  rw [feed, trim_dropReturn, closes, block]
  simp [finish, block, closeBlock_block]

private theorem foldl_takePart_names_from (draft : Draft) {header : Part} {title : List Char}
    (isHeader : header.isHeader = true) (opening : header.opening? = some title) {rest : List Part}
    (clean : ∀ part ∈ rest, part.Clean) :
    ((header :: rest).foldl (takePart environment) draft).names =
      draft.names ++ ((header :: rest).filterMap Part.opening?).mapIdx fun index title =>
        caseName (draft.names.length + index + 1) title := by
  rw [List.foldl_cons, takePart_opening environment opening (.inl isHeader),
    foldl_takePart_names environment rfl clean, openCase_names, cases_length,
    List.filterMap_cons_some opening, List.mapIdx_cons, List.append_assoc]
  simp [Nat.add_assoc, Nat.add_comm 1]

end Draft

private theorem rename_of_bodies {cases before alone : List Case} {names : List String}
    (bodies : cases.map Case.body = (before ++ alone).map Case.body)
    (named : cases.map (·.name) = before.map (·.name) ++ names) :
    cases = before ++ rename names alone := by
  have made (cases : List Case) : cases = List.zipWith
      (fun (name : String) (body : List String × List Step) =>
        ({ name, comments := body.1, steps := body.2 } : Case))
      (cases.map (·.name)) (cases.map Case.body) := by
    induction cases with
    | nil => rfl
    | cons case rest ih =>
      rw [List.map_cons, List.map_cons, List.zipWith_cons_cons, ← ih]
      rfl
  rw [made cases, bodies, named, List.map_append, List.zipWith_append (by simp), ← made before,
    List.zipWith_map_right]
  rfl

private theorem lines_after {text : String} (ended : endsLine text = true) (rest : List Char) :
    lines (text.toList ++ rest) = lines text.toList ++ lines rest := by
  rw [endsLine] at ended
  generalize text.toList = chars at ended ⊢
  rcases List.eq_nil_or_concat chars with rfl | ⟨before, last, rfl⟩
  · rfl
  · obtain rfl : last = '\n' := by simpa using ended
    rw [List.concat_eq_append, List.append_assoc, List.singleton_append, lines_append]

namespace Draft
variable (environment : Environment)

/-- From a header on, parts are read as if nothing stood before them, but for the names of their
cases. -/
theorem foldl_takePart_from (draft : Draft) {header : Part} {title : List Char}
    (isHeader : header.isHeader = true) (opening : header.opening? = some title) {rest : List Part}
    (clean : ∀ part ∈ rest, part.Clean) :
    ((header :: rest).foldl (takePart environment) draft).cases =
      draft.cases ++ rename
        (((header :: rest).filterMap Part.opening?).mapIdx fun index title =>
          caseName (draft.cases.length + index + 1) title)
        ((header :: rest).foldl (takePart environment) empty).cases := by
  have opened : Beside draft.cases (empty.takePart environment header)
      (draft.takePart environment header) := by
    rw [takePart_opening environment opening (.inl isHeader),
      takePart_opening environment opening (.inl isHeader)]
    exact ⟨by simp [openCase, cases, empty], rfl, rfl⟩
  refine rename_of_bodies (opened.foldl_takePart rest).cases ?_
  rw [cases_length]
  exact foldl_takePart_names_from environment draft isHeader opening clean

end Draft

def titledText (title : Phrase) (rest : String) : String :=
  String.ofList ((Header.titled title).line ++ ['\n']) ++ rest

private theorem titledText_lines (title : Phrase) (rest : String) :
    lines (titledText title rest).toList = (Header.titled title).line :: lines rest.toList := by
  have oneLine : '\n' ∉ (Header.titled title).line := by simp [Header.line, title.oneLine]
  rw [titledText, String.toList_append, String.toList_ofList, List.append_assoc,
    List.singleton_append, lines_append, lines_concat, splitAt_absent oneLine, List.map_singleton,
    dropReturn_of_trim (Header.line_trimmed _), List.singleton_append]

private theorem titledText_parts (title : Phrase) (rest : String) :
    parts (lines (titledText title rest).toList) =
      .line (Header.titled title).line :: parts (lines rest.toList) := by
  have noMarker : trim (Header.titled title).line ≠ blockOpenMarker := by
    rw [Header.line_trimmed]
    simp [Header.line, blockOpenMarker]
  rw [titledText_lines, parts, if_neg noMarker, Header.line_trimmed]

private theorem Header.titled_opening (title : Phrase) :
    (Part.line (Header.titled title).line).isHeader = true ∧
      (Part.line (Header.titled title).line).opening? = some title.text := by
  have isHeader : (Part.line (Header.titled title).line).isHeader = true := rfl
  refine ⟨isHeader, ?_⟩
  rw [Part.opening?, if_pos isHeader]
  exact congrArg some title.trim_after_space

private theorem titledText_titles (title : Phrase) (rest : String) :
    titles (titledText title rest) =
      (Part.line (Header.titled title).line :: parts (lines rest.toList)).filterMap
        Part.opening? := by
  rw [titles, titledText_parts, List.dropWhile_cons_of_neg]
  simp [(Header.titled_opening title).1]

section Concatenation
variable (environment : Environment)

def draftOf (text : String) : Draft :=
  (lines text.toList).foldl (Draft.feed environment) Draft.empty

private theorem parse_eq_finish (text : String) : parse environment text = (draftOf environment text).finish :=
  rfl

private theorem draftOf_inside (text : String) :
    (draftOf environment text).block.isSome = endsInsideBlock text :=
  Draft.foldl_feed_inside environment Draft.empty _

theorem draftOf_append {text : String} (ended : endsLine text = true) (rest : String) :
    draftOf environment (text ++ rest) =
      (lines rest.toList).foldl (Draft.feed environment) (draftOf environment text) := by
  rw [draftOf, String.toList_append, lines_after ended, List.foldl_append, draftOf]

private theorem parse_append_titled {first : String} (ended : endsLine first = true)
    (outside : endsInsideBlock first = false) (title : Phrase) (rest : String) :
    parse environment (first ++ titledText title rest) =
      parse environment first ++
        rename (caseNames (parse environment first).length (titledText title rest))
          (parse environment (titledText title rest)) := by
  obtain ⟨isHeader, opening⟩ := Header.titled_opening title
  have block : (draftOf environment first).block = none := by
    rw [← Option.not_isSome_iff_eq_none, draftOf_inside, outside]
    exact Bool.false_ne_true
  have before : parse environment first = (draftOf environment first).cases := by
    rw [parse_eq_finish, Draft.finish, block]
  -- no block is open between the texts, so the second is cut into the same parts as on its own
  rw [parse_eq_finish, draftOf_append environment ended, Draft.foldl_feed environment _ block,
    parse_eq_foldl_parts environment (titledText title rest), titledText_parts, before, caseNames,
    titledText_titles]
  exact Draft.foldl_takePart_from environment _ isHeader opening (parts_clean _)

private theorem parse_titled_names (title : Phrase) (rest : String) :
    (parse environment (titledText title rest)).map (·.name) = caseNames 0 (titledText title rest) := by
  obtain ⟨isHeader, opening⟩ := Header.titled_opening title
  rw [parse_eq_foldl_parts, titledText_parts, caseNames, titledText_titles]
  exact Draft.foldl_takePart_names_from environment Draft.empty isHeader opening (parts_clean _)

private theorem parse_append_close {text : String} (ended : endsLine text = true)
    (inside : endsInsideBlock text = true) {rest : String} {close : List Char}
    (last : lines rest.toList = [close]) (closes : trim close = blockCloseMarker) :
    parse environment (text ++ rest) = parse environment text := by
  rw [parse_eq_finish, draftOf_append environment ended, last]
  refine Draft.feed_close environment ?_ closes
  rw [draftOf_inside, inside]

end Concatenation

/-- Texts concatenate at a header: the names of the later cases are all that the earlier ones have a
share in. The end of a text closes the block that is left open, with or without a close marker. -/
theorem parse_concatenates (environment : Environment) :
    (∀ (first : String) (title : Phrase) (rest : String),
      endsLine first = true → endsInsideBlock first = false →
      let second := titledText title rest
      let before := parse environment first
      let alone := parse environment second
      alone.map (·.name) = caseNames 0 second ∧
        parse environment (first ++ second) =
          before ++ rename (caseNames before.length second) alone) ∧
    ∀ (text : String) (close : List Char),
      endsLine text = true → endsInsideBlock text = true →
      '\n' ∉ close → trim close = blockCloseMarker →
      parse environment (text ++ String.ofList close) = parse environment text ∧
        parse environment (text ++ String.ofList (close ++ ['\n'])) = parse environment text := by
  refine ⟨?_, ?_⟩
  · intro first title rest ended outside
    exact ⟨parse_titled_names environment title rest,
      parse_append_titled environment ended outside title rest⟩
  · intro text close ended inside oneLine closes
    have nonempty : close ≠ [] := by
      rintro rfl
      cases closes
    have bare : lines (String.ofList close).toList = [close] := by
      rw [String.toList_ofList, lines, splitAt_absent oneLine]
      cases close with
      | nil => contradiction
      | cons => rfl
    have broken : lines (String.ofList (close ++ ['\n'])).toList = [dropReturn close] := by
      rw [String.toList_ofList, lines_concat, splitAt_absent oneLine]
      rfl
    exact ⟨parse_append_close environment ended inside bare closes,
      parse_append_close environment ended inside broken ((trim_dropReturn close).trans closes)⟩

private def payTitle : Phrase :=
  ⟨"Pay".toList, by decide, by decide, by decide⟩

private def cart : String :=
  "## Cart\nadd a mug\n# note\n"

/-- The second text has a case without a title, and one with a title like a generated name. -/
private def laterCases : String :=
  "pay\n---\nread\n## Untitled case 1\nleave\n"

private def openBlock : String :=
  "## Letter\n\"+\"\nDear all\n"

theorem parse_concatenates_cart :
    (endsLine cart = true ∧ endsInsideBlock cart = false ∧
      parse .empty (cart ++ titledText payTitle laterCases) =
        parse .empty cart ++ rename ["Pay", "Untitled case 3", "Untitled case 1"]
          (parse .empty (titledText payTitle laterCases))) ∧
    endsLine openBlock = true ∧ endsInsideBlock openBlock = true ∧
      parse .empty (openBlock ++ String.ofList " \"-\" ".toList) = parse .empty openBlock := by
  have ended : endsLine cart = true := by decide
  have outside : endsInsideBlock cart = false := by decide
  have names : caseNames (parse .empty cart).length (titledText payTitle laterCases) =
      ["Pay", "Untitled case 3", "Untitled case 1"] := by decide +kernel
  have blockEnded : endsLine openBlock = true := by decide
  have inside : endsInsideBlock openBlock = true := by decide
  refine ⟨⟨ended, outside, ?_⟩, blockEnded, inside, ?_⟩
  · rw [← names]
    exact ((parse_concatenates .empty).1 cart payTitle laterCases ended outside).2
  · exact ((parse_concatenates .empty).2 openBlock " \"-\" ".toList blockEnded inside (by decide)
      (by decide)).1

end Scenario

end TextScenario
