import TextScenario.Proofs.PatternFragments
import TextScenario.Proofs.RegexEnds
import TextScenario.Proofs.RegexSpans

/-! Alternatives of a fragment. Each is a caret, a body without conditions on places, and a dollar sign, where
caret and dollar sign may be missing. A library takes the caret off the first alternative and the dollar sign off
the last one, and no others. -/

namespace TextScenario.Regex

open Pattern (inSequence)

private theorem inSequence_lookFree (sequence : List Regex) :
    (inSequence sequence).lookFree = sequence.all lookFree := by
  cases sequence with
  | nil => rfl
  | cons first rest =>
    rw [inSequence]
    induction rest generalizing first with
    | nil => exact (Bool.and_true _).symm
    | cons second rest ih =>
      rw [List.foldl_cons, ih]
      simp only [List.all_cons, lookFree, Bool.and_assoc]

namespace Reading

theorem sequence_regex (items : List Item) :
    (sequence items).regex = inSequence ((items.reverse.filterMap Item.node?).map Node.regex) := by
  unfold sequence
  dsimp only
  split
  next none => rw [none, List.map_nil, inSequence]
  next first rest found => rw [found, List.map_cons, inSequence, List.foldl_map]

theorem choice_regex {reading : Reading} (whole : reading.branches = []) :
    reading.choice = sequence reading.items := by
  unfold choice
  rw [whole, List.reverse_nil]

/-- What has become of a reading after items and names were added to it. -/
structure Adds (more : List Item) (given : List String) (reading later : Reading) : Prop where
  flags : later.flags = {}
  items : ∃ added, later.items = added ++ reading.items ∧ List.Forall₂ Item.Alike more added
  branches : later.branches = reading.branches
  outer : later.outer = reading.outer
  names : later.names = given ++ reading.names
  apart : ∀ name ∈ given, name ∉ reading.names

theorem Adds.refl {reading : Reading} (plain : reading.flags = {}) : Adds [] [] reading reading :=
  ⟨plain, ⟨[], rfl, .nil⟩, rfl, rfl, rfl, List.forall_mem_nil _⟩

private theorem Adds.push {more : List Item} {given : List String} {reading later : Reading}
    (adds : Adds more given reading later) (node : Node) :
    Adds (.node node :: more) given reading (later.push node) := by
  obtain ⟨added, same, alike⟩ := adds.items
  have items : (later.push node).items = .node node :: added ++ reading.items :=
    congrArg (Item.node node :: ·) same
  exact ⟨adds.flags, ⟨_, items, .cons (.node (.refl node)) alike⟩, adds.branches, adds.outer, adds.names,
    adds.apart⟩

private theorem Adds.after {more others : List Item} {given : List String} {reading middle later : Reading}
    (first : Adds others [] reading middle) (second : Adds more given middle later) :
    Adds (more ++ others) given reading later := by
  obtain ⟨front, opened, before⟩ := first.items
  obtain ⟨added, same, alike⟩ := second.items
  refine ⟨second.flags, ⟨added ++ front, ?_, List.rel_append alike before⟩, second.branches.trans first.branches,
    second.outer.trans first.outer, second.names.trans (congrArg (given ++ ·) first.names), ?_⟩
  · rw [same, opened, List.append_assoc]
  · exact fun name member known => second.apart name member (first.names ▸ known)

/-- One node for several branches. -/
def joined : List Node → Node
  | [] => ⟨.empty, 0⟩
  | [only] => only
  | first :: rest =>
    { regex := rest.foldl (fun regex node => .alternate regex node.regex) first.regex
      depth := rest.foldl (fun depth node => max depth node.depth) first.depth + 1 }

theorem choice_joined (reading : Reading) :
    reading.choice = joined (reading.branches.reverse ++ [sequence reading.items]) := by
  unfold choice
  dsimp only
  cases reading.branches.reverse with
  | nil => rfl
  | cons first rest => cases rest <;> rfl

theorem joined_alike {nodes others : List Node} (alike : List.Forall₂ Node.Alike nodes others) :
    (joined nodes).Alike (joined others) := by
  cases alike with
  | nil => exact .refl _
  | cons first rest =>
    cases rest with
    | nil => exact first
    | cons second rest =>
      constructor
      · exact congrArg (· + 1) (by rw [first.depth, depth_alike (.cons second rest)])
      · exact shape_alike .alternate (fun _ _ => rfl) (.cons second rest) first.shape

theorem pairwise_disjoint_cons {known given : List String} {rest : List (List String)} :
    (known :: given :: rest).Pairwise List.Disjoint ↔
      (∀ name ∈ given, name ∉ known) ∧ ((given ++ known) :: rest).Pairwise List.Disjoint := by
  have apart : List.Disjoint known given ↔ ∀ name ∈ given, name ∉ known :=
    ⟨fun apart _ member other => apart other member, fun apart _ other member => apart _ member other⟩
  simp only [List.pairwise_cons, List.forall_mem_cons, List.disjoint_append_left, apart]
  constructor
  · rintro ⟨⟨here, known⟩, given, rest⟩
    exact ⟨here, fun names member => ⟨given names member, known names member⟩, rest⟩
  · rintro ⟨here, both, rest⟩
    exact ⟨⟨here, fun names member => (both names member).2⟩, fun names member => (both names member).1, rest⟩

end Reading

namespace Alternative

/-- What stands before the body of an alternative cannot be taken for a part of it. -/
def Fronts (front : List Char) : Prop :=
  ∀ rest, front = [] ∨ Settles (front ++ rest) rest

theorem fronts_nil : Fronts [] := fun _ => .inl rfl

theorem Fronts.cons {front : List Char} (fronts : Fronts front) {mark : Char} (slash : mark ≠ '\\')
    (dollar : mark ≠ '$') (before : List Char) : Fronts (before ++ mark :: front) := by
  intro rest
  right
  have here : Settles (before ++ mark :: front ++ rest) (front ++ rest) := ⟨before, mark, by simp, slash, dollar⟩
  rcases fronts rest with rfl | settles
  · exact here
  · exact here.trans settles

private theorem strip_single (mark : Char) (text : List Char) :
    Text.strip? [mark] text = if text.head? = some mark then some text.tail else none := by
  cases text with
  | nil => rfl
  | cons char rest =>
    simp only [Text.strip?, List.head?_cons, Option.some_inj, List.tail_cons, eq_comm]

private theorem strip_dollar {text : List Char} (settled : Reading.Settled False text) (dollar : Bool) :
    (match Text.stripEnd? ['$'] (text ++ if dollar then ['$'] else []) with
      | some rest =>
        if (rest.reverse.takeWhile (· == '\\')).length % 2 = 1 then text ++ if dollar then ['$'] else [] else rest
      | none => text ++ if dollar then ['$'] else []) = text := by
  have ends (text : List Char) : Text.stripEnd? ['$'] (text ++ ['$']) = some text := by
    simp [Text.stripEnd?, Text.strip?]
  cases dollar with
  | true =>
    have even : ¬ (text.reverse.takeWhile (· == '\\')).length % 2 = 1 := by
      have even := settled.even
      rw [Reading.slashes] at even
      omega
    rw [if_pos rfl, ends]
    exact if_neg even
  | false =>
    rw [if_neg Bool.false_ne_true, List.append_nil]
    split
    next rest stripped =>
      have same : text = rest ++ ['$'] := by
        obtain ⟨front, found, reversed⟩ := Option.map_eq_some_iff.mp stripped
        rw [List.reverse_singleton, strip_single] at found
        split at found
        next ended =>
          obtain ⟨others, whole⟩ := List.head?_eq_some_iff.mp ended
          cases found
          rw [← reversed, whole, List.tail_cons, ← List.reverse_cons, ← whole, List.reverse_reverse]
        next => contradiction
      have odd := (settled.dollar rest same).resolve_right id
      rw [Reading.slashes] at odd
      exact if_pos odd
    next => rfl

end Alternative

variable [Engine]

/-- An alternative whose body is an expression that takes the same texts wherever it stands. -/
structure Alternative where
  caret : Bool
  body : List Char
  dollar : Bool
  reading : Reading
  read : Reading.run body.length {} body = some reading
  closed : reading.outer = []
  whole : reading.branches = []
  plain : reading.flags = {}
  free : reading.choice.regex.lookFree = true
  begins : body.head? ≠ some '^'

namespace Alternative

def text (alternative : Alternative) : List Char :=
  (if alternative.caret then ['^'] else []) ++ alternative.body ++ if alternative.dollar then ['$'] else []

def regex (alternative : Alternative) : Regex :=
  alternative.reading.choice.regex

/-- The text of a fragment with these alternatives. -/
def fragment (alternatives : List Alternative) : List Char :=
  Pattern.joinTexts ['|'] (alternatives.map text)

def withoutCaret : List Alternative → List Alternative
  | [] => []
  | first :: rest => { first with caret := false } :: rest

def withoutDollar : List Alternative → List Alternative
  | [] => []
  | [last] => [{ last with dollar := false }]
  | first :: rest => first :: withoutDollar rest

def stripped (alternatives : List Alternative) : List Alternative :=
  withoutDollar (withoutCaret alternatives)

theorem fragment_cons (first second : Alternative) (rest : List Alternative) :
    fragment (first :: second :: rest) = first.text ++ '|' :: fragment (second :: rest) := by
  simp [fragment, Pattern.joinTexts]

theorem fragment_single (only : Alternative) : fragment [only] = only.text := rfl

private theorem settled (alternative : Alternative) : Reading.Settled False alternative.body := by
  have counted : alternative.reading.flags.ignoreBlanks = false := by rw [alternative.plain]
  have settled := Reading.run_settled alternative.read alternative.closed counted
  refine ⟨settled.even, fun before same => (settled.dollar before same).imp_right ?_⟩
  rintro ⟨items, kind, last⟩
  have free := alternative.free
  rw [Reading.choice_regex alternative.whole, last, Reading.sequence_regex, inSequence_lookFree,
    List.all_eq_true] at free
  have member : Regex.look kind ∈
      (((Item.node ⟨.look kind, 0⟩ :: items).reverse.filterMap Item.node?).map Node.regex) := by
    simp [Item.node?]
  exact absurd (free _ member) (by simp [lookFree])

private theorem strip_text (alternative : Alternative) {rest : List Char} (following : rest.head? ≠ some '^') :
    (Text.strip? ['^'] (alternative.text ++ rest)).getD (alternative.text ++ rest) =
      { alternative with caret := false }.text ++ rest := by
  rw [strip_single]
  cases marked : alternative.caret with
  | true => simp [text, marked]
  | false =>
    have begins := alternative.begins
    have other : (alternative.text ++ rest).head? ≠ some '^' := by
      rw [text, marked]
      cases body : alternative.body with
      | nil =>
        cases alternative.dollar
        · exact following
        · simp
      | cons char others =>
        rw [body] at begins
        exact begins
    rw [if_neg other]
    simp [text, marked]

private theorem strip_caret (alternatives : List Alternative) :
    (Text.strip? ['^'] (fragment alternatives)).getD (fragment alternatives) =
      fragment (withoutCaret alternatives) := by
  rcases alternatives with _ | ⟨only, _ | ⟨second, rest⟩⟩
  · rfl
  · have nothing : ([] : List Char).head? ≠ some '^' := by simp
    have alone := strip_text only nothing
    rwa [List.append_nil, List.append_nil] at alone
  · rw [fragment_cons, withoutCaret, fragment_cons]
    exact strip_text only (by simp)

private theorem fragment_ends {alternatives : List Alternative} (nonempty : alternatives ≠ []) :
    ∃ front last, Fronts front ∧ last ∈ alternatives ∧
      fragment alternatives = front ++ last.body ++ (if last.dollar then ['$'] else []) ∧
      fragment (withoutDollar alternatives) = front ++ last.body := by
  induction alternatives with
  | nil => contradiction
  | cons first rest ih =>
    cases rest with
    | nil =>
      refine ⟨if first.caret then ['^'] else [], first, ?_, .head _, rfl, ?_⟩
      · split
        · exact fronts_nil.cons (by decide) (by decide) []
        · exact fronts_nil
      · simp [withoutDollar, fragment_single, text]
    | cons second rest =>
      obtain ⟨front, last, fronts, member, same, kept⟩ := ih (List.cons_ne_nil _ _)
      refine ⟨first.text ++ '|' :: front, last, fronts.cons (by decide) (by decide) _, .tail _ member, ?_, ?_⟩
      · rw [fragment_cons, same]
        simp
      · have more : withoutDollar (first :: second :: rest) = first :: withoutDollar (second :: rest) := rfl
        obtain ⟨third, others, found⟩ : ∃ third others, withoutDollar (second :: rest) = third :: others := by
          cases rest <;> exact ⟨_, _, rfl⟩
        rw [found] at kept
        rw [more, found, fragment_cons, kept]
        simp

/-- A library strips the first caret and the last dollar sign, whatever characters the bodies end in. -/
theorem strip_fragment (alternatives : List Alternative) :
    Library.stripAnchors (fragment alternatives) = fragment (stripped alternatives) := by
  rw [Library.stripAnchors, strip_caret, stripped]
  cases found : withoutCaret alternatives with
  | nil => rfl
  | cons first rest =>
    obtain ⟨front, last, fronts, -, same, kept⟩ := fragment_ends (List.cons_ne_nil first rest)
    have settled : Reading.Settled False (front ++ last.body) := by
      rcases fronts last.body with rfl | settles
      · exact last.settled
      · exact last.settled.of_settles settles
    rw [same, kept]
    exact strip_dollar settled last.dollar

/-- What an alternative is read as, in a group of its own. -/
def items (alternative : Alternative) : List Item :=
  (if alternative.dollar then [.node ⟨.look .textEnd, 0⟩] else []) ++ alternative.reading.items ++
    if alternative.caret then [.node ⟨.look .textStart, 0⟩] else []

def node (alternative : Alternative) : Node :=
  Reading.sequence alternative.items

end Alternative

namespace Reading

private theorem goes_caret {reading : Reading} (plain : reading.flags = {}) (caret : Bool) (rest : List Char) :
    ∃ used ≤ (if caret then ['^'] else []).length, ∃ later,
      Goes used reading ((if caret then ['^'] else []) ++ rest) later rest ∧
        Adds (if caret then [.node ⟨.look .textStart, 0⟩] else []) [] reading later := by
  cases caret with
  | false => exact ⟨0, Nat.le_refl 0, reading, .done, .refl plain⟩
  | true =>
    refine ⟨1, Nat.le_refl 1, reading.push ⟨.look .textStart, 0⟩, ?_, (Adds.refl plain).push _⟩
    obtain ⟨flags, items, branches, outer, groups, names⟩ := reading
    obtain rfl : flags = {} := plain
    exact .next rfl rfl .done

private theorem goes_dollar {reading later : Reading} {more : List Item} {given : List String}
    (adds : Adds more given reading later) (dollar : Bool) (rest : List Char) :
    ∃ used ≤ (if dollar then ['$'] else []).length, ∃ final,
      Goes used later ((if dollar then ['$'] else []) ++ rest) final rest ∧
        Adds ((if dollar then [.node ⟨.look .textEnd, 0⟩] else []) ++ more) given reading final := by
  cases dollar with
  | false => exact ⟨0, Nat.le_refl 0, later, .done, adds⟩
  | true =>
    refine ⟨1, Nat.le_refl 1, later.push ⟨.look .textEnd, 0⟩, ?_, adds.push _⟩
    have plain := adds.flags
    obtain ⟨flags, items, branches, outer, groups, names⟩ := later
    obtain rfl : flags = {} := plain
    exact .next rfl rfl .done

private theorem goes_body {reading : Reading} (plain : reading.flags = {}) (alternative : Alternative) {closer : Char}
    (closes : closer ∈ closers) (after : List Char)
    (given : (∀ name ∈ alternative.reading.names, name ∉ reading.names) ∨
      ∃ more final, run more reading (alternative.body ++ closer :: after) = some final) :
    ∃ used ≤ alternative.body.length, ∃ later,
      Goes used reading (alternative.body ++ closer :: after) later (closer :: after) ∧
        Adds alternative.reading.items alternative.reading.names reading later := by
  obtain ⟨left, blank, goesOn⟩ := run_within alternative.read (.inl alternative.closed)
  have nothing : left = [] := by
    rw [alternative.plain] at blank
    exact blank
  subst nothing
  obtain ⟨used, enough, later, within, goes⟩ := goesOn _ _ closer after closes (within_base plain) given
  obtain ⟨branches, outer, items⟩ := within.frames.grown alternative.whole alternative.closed
  exact ⟨used, enough, later, goes, within.flags.trans alternative.plain, items, branches, outer, within.names,
    within.apart⟩

/-- An alternative is read as it is on its own, but for the numbers of its groups. -/
theorem goes_alternative {reading : Reading} (plain : reading.flags = {}) (alternative : Alternative)
    {closer : Char} (closes : closer ∈ closers) (after : List Char)
    (given : (∀ name ∈ alternative.reading.names, name ∉ reading.names) ∨
      ∃ more final, run more reading (alternative.text ++ closer :: after) = some final) :
    ∃ used ≤ alternative.text.length, ∃ later,
      Goes used reading (alternative.text ++ closer :: after) later (closer :: after) ∧
        Adds alternative.items alternative.reading.names reading later := by
  have parts : alternative.text ++ closer :: after =
      (if alternative.caret then ['^'] else []) ++ (alternative.body ++
        ((if alternative.dollar then ['$'] else []) ++ closer :: after)) := by
    simp [Alternative.text]
  rw [parts] at given ⊢
  obtain ⟨first, caret, opened, goes, begun⟩ := goes_caret plain alternative.caret
    (alternative.body ++ ((if alternative.dollar then ['$'] else []) ++ closer :: after))
  obtain ⟨mark, rest, marked, marks⟩ : ∃ mark rest,
      (if alternative.dollar then ['$'] else []) ++ closer :: after = mark :: rest ∧ mark ∈ closers := by
    cases alternative.dollar
    · exact ⟨closer, after, rfl, closes⟩
    · exact ⟨'$', closer :: after, rfl, by decide⟩
  rw [marked] at given goes ⊢
  have same : opened.names = reading.names := begun.names
  have known : (∀ name ∈ alternative.reading.names, name ∉ opened.names) ∨
      ∃ more final, run more opened (alternative.body ++ mark :: rest) = some final := by
    refine given.imp (fun fresh => same ▸ fresh) ?_
    rintro ⟨more, final, reached⟩
    obtain ⟨more, reached⟩ := goes.resume reached
    exact ⟨more, final, reached⟩
  obtain ⟨second, body, middle, further, added⟩ := goes_body begun.flags alternative marks rest known
  obtain ⟨third, dollar, later, last, ended⟩ := goes_dollar (begun.after added) alternative.dollar (closer :: after)
  rw [marked] at last
  refine ⟨first + (second + third), ?_, later, goes.trans (further.trans last), ?_⟩
  · rw [Alternative.text, List.length_append, List.length_append]
    omega
  · rw [Alternative.items, List.append_assoc]
    exact ended

/-- What has become of a reading that was at the start of a branch, after several alternatives. -/
structure Branches (alternatives : List Alternative) (reading later : Reading) : Prop where
  flags : later.flags = {}
  outer : later.outer = reading.outer
  nodes : ∃ nodes, later.branches.reverse ++ [sequence later.items] = reading.branches.reverse ++ nodes ∧
    List.Forall₂ Node.Alike (alternatives.map Alternative.node) nodes
  apart : (reading.names :: alternatives.map fun alternative => alternative.reading.names).Pairwise List.Disjoint

private theorem goes_bar {reading : Reading} (plain : reading.flags = {}) (rest : List Char) :
    Goes 1 reading ('|' :: rest) reading.startBranch rest := by
  obtain ⟨flags, items, branches, outer, groups, names⟩ := reading
  obtain rfl : flags = {} := plain
  exact .next rfl rfl .done

/-- The alternatives of a fragment are read one by one, each in a branch of its own. -/
theorem goes_fragment {reading : Reading} (plain : reading.flags = {}) (fresh : reading.items = [])
    {alternatives : List Alternative} (nonempty : alternatives ≠ []) (after : List Char)
    (given : (reading.names :: alternatives.map fun alternative => alternative.reading.names).Pairwise
        List.Disjoint ∨
      ∃ more final, run more reading (Alternative.fragment alternatives ++ ')' :: after) = some final) :
    ∃ used ≤ (Alternative.fragment alternatives).length, ∃ later,
      Goes used reading (Alternative.fragment alternatives ++ ')' :: after) later (')' :: after) ∧
        Branches alternatives reading later := by
  induction alternatives generalizing reading with
  | nil => contradiction
  | cons first rest ih =>
    cases rest with
    | nil =>
      have known := given.imp_left fun apart => (pairwise_disjoint_cons.mp apart).1
      obtain ⟨used, enough, later, goes, adds⟩ := goes_alternative plain first (by decide) after known
      obtain ⟨added, items, alike⟩ := adds.items
      rw [fresh, List.append_nil] at items
      refine ⟨used, enough, later, goes, adds.flags, adds.outer, ⟨[sequence later.items], ?_, ?_⟩, ?_⟩
      · rw [adds.branches]
      · exact .cons (sequence_alike (items ▸ alike)) .nil
      · exact pairwise_disjoint_cons.mpr ⟨adds.apart, List.pairwise_singleton _ _⟩
    | cons second rest =>
      rw [Alternative.fragment_cons, List.append_assoc, List.cons_append] at given ⊢
      have known := given.imp_left fun apart => (pairwise_disjoint_cons.mp apart).1
      obtain ⟨used, enough, middle, goes, adds⟩ := goes_alternative plain first (by decide) _ known
      obtain ⟨added, items, alike⟩ := adds.items
      rw [fresh, List.append_nil] at items
      have here := goes.trans (goes_bar adds.flags _)
      have known : (middle.startBranch.names :: (second :: rest).map fun alternative =>
            alternative.reading.names).Pairwise List.Disjoint ∨
          ∃ more final, run more middle.startBranch (Alternative.fragment (second :: rest) ++ ')' :: after) =
            some final := by
        refine given.imp (fun apart => ?_) ?_
        · rw [startBranch, adds.names]
          exact (pairwise_disjoint_cons.mp apart).2
        · rintro ⟨more, final, reached⟩
          obtain ⟨more, reached⟩ := here.resume reached
          exact ⟨more, final, reached⟩
      have plain : middle.startBranch.flags = {} := adds.flags
      obtain ⟨further, bounded, later, last, ended⟩ := ih plain rfl (List.cons_ne_nil _ _) known
      obtain ⟨nodes, whole, others⟩ := ended.nodes
      refine ⟨used + 1 + further, ?_, later, here.trans last, ended.flags, ended.outer.trans adds.outer,
        ⟨sequence middle.items :: nodes, ?_, ?_⟩, ?_⟩
      · rw [List.length_append, List.length_cons]
        omega
      · rw [whole, startBranch, List.reverse_cons, adds.branches, List.append_assoc, List.singleton_append]
      · exact .cons (sequence_alike (items ▸ alike)) others
      · have apart := ended.apart
        rw [startBranch, adds.names] at apart
        exact pairwise_disjoint_cons.mpr ⟨adds.apart, apart⟩

end Reading

end TextScenario.Regex
