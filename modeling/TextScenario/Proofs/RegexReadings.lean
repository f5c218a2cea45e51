import Mathlib.Data.List.Forall2
import TextScenario.Proofs.RegexReaders

/-! A text that is read on its own and within groups that are open already. Both readings go through the same
constructs and build the same expressions but for the numbers of their groups, as long as the text does not
close a group that it did not open. -/

namespace TextScenario.Regex

private theorem groupNames_shape (regex : Regex) : regex.shape.groupNames = regex.groupNames := by
  induction regex with
  | empty | chars | look => rfl
  | concat left right first second | alternate left right first second =>
    rw [shape, groupNames, groupNames, first, second]
  | repeated inner least most greedy ih => exact ih
  | group index name inner ih => rw [shape, groupNames, groupNames, ih]

private theorem shape_repeating {regex other : Regex} (same : other.shape = regex.shape) (least : Nat)
    (most : Option Nat) (greedy : Bool) :
    (other.repeating least most greedy).shape = (regex.repeating least most greedy).shape := by
  unfold repeating
  split
  · rfl
  · rw [shape, shape, same]

/-- Nodes that differ in the numbers of groups only. -/
structure Node.Alike (node other : Node) : Prop where
  depth : other.depth = node.depth
  shape : other.regex.shape = node.regex.shape

inductive Item.Alike : Item → Item → Prop
  | node {own other : Node} (alike : own.Alike other) : Alike (.node own) (.node other)
  | flags : Alike .flags .flags

theorem Node.Alike.refl (node : Node) : node.Alike node :=
  ⟨rfl, rfl⟩

theorem Node.Alike.takes [Engine] {node other : Node} (alike : node.Alike other) :
    Engine.takes other.regex = Engine.takes node.regex := by
  rw [← Engine.takes_shape, alike.shape, Engine.takes_shape]

theorem Node.Alike.groupNames {node other : Node} (alike : node.Alike other) :
    other.regex.groupNames = node.regex.groupNames := by
  rw [← groupNames_shape, alike.shape, groupNames_shape]

private theorem nodes_alike {items others : List Item} (alike : List.Forall₂ Item.Alike items others) :
    List.Forall₂ Node.Alike (items.filterMap Item.node?) (others.filterMap Item.node?) := by
  induction alike with
  | nil => exact .nil
  | cons first _ ih =>
    cases first with
    | node own => exact .cons own ih
    | flags => exact ih

theorem depth_alike {nodes others : List Node} (alike : List.Forall₂ Node.Alike nodes others) (depth : Nat) :
    others.foldl (fun depth node => max depth node.depth) depth =
      nodes.foldl (fun depth node => max depth node.depth) depth := by
  induction alike generalizing depth with
  | nil => rfl
  | cons first _ ih => rw [List.foldl_cons, List.foldl_cons, first.depth, ih]

theorem shape_alike (join : Regex → Regex → Regex)
    (joined : ∀ left right, (join left right).shape = join left.shape right.shape)
    {nodes others : List Node} (alike : List.Forall₂ Node.Alike nodes others) {regex other : Regex}
    (same : other.shape = regex.shape) :
    (others.foldl (fun regex node => join regex node.regex) other).shape =
      (nodes.foldl (fun regex node => join regex node.regex) regex).shape := by
  induction alike generalizing regex other with
  | nil => exact same
  | cons first _ ih =>
    refine ih ?_
    rw [joined, joined, same, first.shape]

namespace Reading

theorem sequence_alike {items others : List Item} (alike : List.Forall₂ Item.Alike items others) :
    (sequence items).Alike (sequence others) := by
  have nodes := nodes_alike (List.forall₂_reverse_iff.mpr alike)
  have length := alike.length_eq
  unfold sequence
  dsimp only
  generalize items.reverse.filterMap Item.node? = own at nodes ⊢
  generalize others.reverse.filterMap Item.node? = other at nodes ⊢
  constructor
  · rw [depth_alike nodes, length]
  · cases nodes with
    | nil => rfl
    | cons first rest => exact shape_alike .concat (fun _ _ => rfl) rest first.shape

theorem choice_alike {reading other : Reading} (items : List.Forall₂ Item.Alike reading.items other.items)
    (branches : List.Forall₂ Node.Alike reading.branches other.branches) :
    reading.choice.Alike other.choice := by
  have last := sequence_alike items
  have branches := List.forall₂_reverse_iff.mpr branches
  unfold choice
  dsimp only
  generalize reading.branches.reverse = own at branches ⊢
  generalize other.branches.reverse = further at branches ⊢
  cases branches with
  | nil => exact last
  | cons first rest =>
    have nodes := List.rel_append rest (.cons last .nil)
    constructor
    · dsimp only
      rw [first.depth, depth_alike nodes]
    · exact shape_alike .alternate (fun _ _ => rfl) nodes first.shape

/-- What was read before a text begins: in the group that it begins in, around this group, and the names that
are given. -/
structure Base where
  items : List Item
  branches : List Node
  outer : List OpenGroup
  names : List String

/-- The open groups of a text that is read on its own, and of the same text that goes on from a base. What was
read before it in its group stays in the first of the branches there. -/
inductive Frames (base : Base) :
    List Item → List Node → List OpenGroup → List Item → List Node → List OpenGroup → Prop
  | bottom {items others : List Item} (alike : List.Forall₂ Item.Alike items others) :
    Frames base items [] [] (others ++ base.items) base.branches base.outer
  | parted {items others : List Item} {branches further : List Node} {first other : Node}
      (alike : List.Forall₂ Item.Alike items others) (parts : List.Forall₂ Node.Alike branches further)
      (same : base.items = [] → first.Alike other) :
    Frames base items (branches ++ [first]) [] others (further ++ other :: base.branches) base.outer
  | nested {items others : List Item} {branches further : List Node} {group parent : OpenGroup}
      {outer around : List OpenGroup} (alike : List.Forall₂ Item.Alike items others)
      (parts : List.Forall₂ Node.Alike branches further) (flags : parent.flags = group.flags)
      (capture : parent.capture.map Prod.snd = group.capture.map Prod.snd)
      (below : Frames base group.items group.branches outer parent.items parent.branches around) :
    Frames base items branches (group :: outer) others further (parent :: around)

namespace Frames

variable {base : Base} {items others : List Item} {branches further : List Node} {outer around : List OpenGroup}

theorem cons (frames : Frames base items branches outer others further around) {item other : Item}
    (alike : item.Alike other) : Frames base (item :: items) branches outer (other :: others) further around := by
  cases frames with
  | bottom before => exact .bottom (.cons alike before)
  | parted before parts same => exact .parted (.cons alike before) parts same
  | nested before parts flags capture below => exact .nested (.cons alike before) parts flags capture below

theorem uncons {item : Item} (frames : Frames base (item :: items) branches outer others further around) :
    ∃ other rest, others = other :: rest ∧ item.Alike other ∧
      Frames base items branches outer rest further around := by
  cases frames with
  | bottom alike =>
    cases alike with
    | cons first rest => exact ⟨_, _, rfl, first, .bottom rest⟩
  | parted alike parts same =>
    cases alike with
    | cons first rest => exact ⟨_, _, rfl, first, .parted rest parts same⟩
  | nested alike parts flags capture below =>
    cases alike with
    | cons first rest => exact ⟨_, _, rfl, first, .nested rest parts flags capture below⟩

private theorem startBranch (frames : Frames base items branches outer others further around) :
    Frames base [] (sequence items :: branches) outer [] (sequence others :: further) around := by
  cases frames with
  | bottom alike =>
    refine @Frames.parted base [] [] [] [] _ _ .nil .nil ?_
    intro none
    rw [none, List.append_nil]
    exact sequence_alike alike
  | parted alike parts same => exact .parted .nil (.cons (sequence_alike alike) parts) same
  | nested alike parts flags capture below =>
    exact .nested .nil (.cons (sequence_alike alike) parts) flags capture below

theorem unnest {group : OpenGroup} (frames : Frames base items branches (group :: outer) others further around) :
    ∃ parent rest, around = parent :: rest ∧ parent.flags = group.flags ∧
      parent.capture.map Prod.snd = group.capture.map Prod.snd ∧
      Frames base group.items group.branches outer parent.items parent.branches rest := by
  cases frames with
  | nested alike parts flags capture below => exact ⟨_, _, rfl, flags, capture, below⟩

/-- A text without a branch of its own adds to the items of the group that it is in. -/
theorem grown (frames : Frames base items branches outer others further around) (whole : branches = [])
    (closed : outer = []) :
    further = base.branches ∧ around = base.outer ∧
      ∃ added, others = added ++ base.items ∧ List.Forall₂ Item.Alike items added := by
  cases frames with
  | bottom alike => exact ⟨rfl, rfl, _, rfl, alike⟩
  | parted => simp at whole
  | nested => contradiction

private theorem level (frames : Frames base items branches outer others further around)
    (own : outer ≠ [] ∨ base.items = [] ∧ base.branches = []) :
    List.Forall₂ Item.Alike items others ∧ List.Forall₂ Node.Alike branches further := by
  cases frames with
  | bottom alike =>
    obtain ⟨none, nothing⟩ := own.resolve_left (fun some => some rfl)
    rw [none, nothing, List.append_nil]
    exact ⟨alike, .nil⟩
  | parted alike parts same =>
    obtain ⟨none, nothing⟩ := own.resolve_left (fun some => some rfl)
    rw [nothing]
    exact ⟨alike, List.rel_append parts (.cons (same none) .nil)⟩
  | nested alike parts => exact ⟨alike, parts⟩

end Frames

/-- A reading that goes on from a base, beside the reading of the same text on its own. -/
structure Within (base : Base) (alone inside : Reading) : Prop where
  flags : inside.flags = alone.flags
  frames : Frames base alone.items alone.branches alone.outer inside.items inside.branches inside.outer
  names : inside.names = alone.names ++ base.names
  apart : ∀ name ∈ alone.names, name ∉ base.names

variable {base : Base} {alone inside after : Reading}

theorem Within.choice (within : Within base alone inside)
    (own : alone.outer ≠ [] ∨ base.items = [] ∧ base.branches = []) : alone.choice.Alike inside.choice := by
  obtain ⟨items, branches⟩ := within.frames.level own
  exact choice_alike items branches

private theorem Within.push (within : Within base alone inside) (node : Node) :
    Within base (alone.push node) (inside.push node) :=
  ⟨within.flags, within.frames.cons (.node (.refl node)), within.names, within.apart⟩

private theorem Within.startBranch (within : Within base alone inside) :
    Within base alone.startBranch inside.startBranch :=
  ⟨within.flags, within.frames.startBranch, within.names, within.apart⟩

private theorem Within.openGroup (within : Within base alone inside) {capture other : Option (Nat × Option String)}
    (same : other.map Prod.snd = capture.map Prod.snd) (inner : Flags) :
    Within base (alone.openGroup capture inner) (inside.openGroup other inner) :=
  ⟨rfl, .nested .nil .nil within.flags same within.frames, within.names, within.apart⟩

private theorem Within.closeGroup (within : Within base alone inside) (read : alone.closeGroup = some after) :
    ∃ later, inside.closeGroup = some later ∧ Within base after later := by
  have frames := within.frames
  have inner (opened : alone.outer ≠ []) := within.choice (.inl opened)
  unfold Reading.closeGroup at read ⊢
  cases opened : alone.outer with
  | nil =>
    rw [opened] at read
    contradiction
  | cons group outer =>
    rw [opened] at read frames inner
    obtain ⟨parent, around, found, flags, capture, below⟩ := frames.unnest
    have inner := inner (List.cons_ne_nil _ _)
    rw [found]
    cases read
    refine ⟨_, rfl, flags, below.cons (.node ⟨?_, ?_⟩), within.names, within.apart⟩
    · dsimp only
      rw [inner.depth]
    · generalize group.capture = own at capture ⊢
      generalize parent.capture = further at capture ⊢
      cases own with
      | none =>
        cases further with
        | none => exact inner.shape
        | some => contradiction
      | some own =>
        cases further with
        | none => contradiction
        | some further =>
          have named : further.2 = own.2 := Option.some.inj capture
          exact congrArg₂ (Regex.group 0) named inner.shape

variable {text rest : List Char}

private theorem Within.repeatLast (within : Within base alone inside) {least : Nat} {most : Option Nat}
    (read : alone.repeatLast least most text = some (after, rest)) :
    ∃ later, inside.repeatLast least most text = some (later, rest) ∧ Within base after later := by
  have frames := within.frames
  unfold Reading.repeatLast at read ⊢
  split at read
  next node others last =>
    rw [last] at frames
    obtain ⟨other, more, found, alike, frames⟩ := frames.uncons
    cases alike with
    | node alike =>
      rw [found, within.flags]
      cases read
      refine ⟨_, rfl, rfl, frames.cons (.node ⟨?_, shape_repeating alike.shape _ _ _⟩), within.names,
        within.apart⟩
      dsimp only
      rw [alike.depth]
  next => contradiction

private theorem Within.repeatCounted (within : Within base alone inside)
    (read : alone.repeatCounted text = some (after, rest)) :
    ∃ later, inside.repeatCounted text = some (later, rest) ∧ Within base after later := by
  unfold Reading.repeatCounted at read ⊢
  rw [Option.bind_eq_bind, Option.bind_eq_some_iff] at read
  obtain ⟨⟨least, most, tail⟩, bounded, read⟩ := read
  rw [within.flags, bounded]
  exact within.repeatLast read

/-- Whether the names in a text are not given before it, or it was read after them. -/
def Allowed (base : Base) (after : Reading) (inside : Option (Reading × List Char)) : Prop :=
  (∀ name ∈ after.names, name ∉ base.names) ∨ inside.isSome = true

private theorem Within.openNamed (within : Within base alone inside) (read : alone.openNamed text = some (after, rest))
    (allowed : Allowed base after (inside.openNamed text)) :
    ∃ later, inside.openNamed text = some (later, rest) ∧ Within base after later := by
  unfold Reading.openNamed at read allowed ⊢
  rw [Option.bind_eq_bind, Option.bind_eq_some_iff] at read
  obtain ⟨⟨name, tail⟩, found, read⟩ := read
  rw [found, Option.bind_eq_bind, Option.bind_some] at allowed ⊢
  dsimp only at read allowed ⊢
  split at read
  · contradiction
  next fresh =>
    cases read
    have apart : String.ofList name ∉ base.names := by
      rcases allowed with given | read
      · exact given _ (.head _)
      · split at read
        · contradiction
        next unknown =>
          simp only [within.names, List.contains_iff_mem, List.mem_append, not_or] at unknown
          exact unknown.2
    have unknown : ¬ inside.names.contains (String.ofList name) = true := by
      simp only [List.contains_iff_mem] at fresh
      simp only [within.names, List.contains_iff_mem, List.mem_append, not_or]
      exact ⟨fresh, apart⟩
    rw [if_neg unknown]
    refine ⟨_, rfl, within.flags, .nested .nil .nil within.flags rfl within.frames, ?_,
      List.forall_mem_cons.mpr ⟨apart, within.apart⟩⟩
    exact congrArg (String.ofList name :: ·) within.names

private theorem Within.openFlags (within : Within base alone inside)
    (read : alone.openFlags text = some (after, rest)) :
    ∃ later, inside.openFlags text = some (later, rest) ∧ Within base after later := by
  unfold Reading.openFlags at read ⊢
  rw [Option.bind_eq_bind, Option.bind_eq_some_iff] at read
  obtain ⟨⟨flags, seen, tail⟩, found, read⟩ := read
  rw [within.flags, found, Option.bind_eq_bind, Option.bind_some]
  dsimp only at read ⊢
  split at read
  next =>
    split at read
    · contradiction
    next some =>
      cases read
      rw [if_neg some]
      exact ⟨_, rfl, rfl, within.frames.cons .flags, within.names, within.apart⟩
  next =>
    cases read
    exact ⟨_, rfl, within.openGroup rfl _⟩
  next => contradiction

private theorem Within.openMarked (within : Within base alone inside)
    (read : alone.openMarked text = some (after, rest)) (allowed : Allowed base after (inside.openMarked text)) :
    ∃ later, inside.openMarked text = some (later, rest) ∧ Within base after later := by
  unfold Reading.openMarked at read allowed ⊢
  revert allowed
  split at read
  iterate 4 contradiction
  · exact within.openNamed read
  · exact within.openNamed read
  · exact fun _ => within.openFlags read

private theorem Within.openParenthesis (within : Within base alone inside)
    (read : alone.openParenthesis text = some (after, rest))
    (allowed : Allowed base after (inside.openParenthesis text)) :
    ∃ later, inside.openParenthesis text = some (later, rest) ∧ Within base after later := by
  unfold Reading.openParenthesis at read allowed ⊢
  rw [within.flags] at allowed ⊢
  revert allowed
  split at read
  next => exact within.openMarked read
  next =>
    intro _
    cases read
    exact ⟨_, rfl, rfl, .nested .nil .nil rfl rfl within.frames, within.names, within.apart⟩

private theorem Within.pushAtom (within : Within base alone inside) {atom : Atom}
    (read : alone.pushAtom atom = some after) :
    ∃ later, inside.pushAtom atom = some later ∧ Within base after later := by
  unfold Reading.pushAtom at read ⊢
  rw [within.flags]
  split at read
  next =>
    split at read
    next unicode =>
      rw [if_pos unicode]
      cases read
      exact ⟨_, rfl, within.push _⟩
    next bytes =>
      rw [if_neg bytes]
      split at read
      · contradiction
      next allowed =>
        rw [if_neg allowed]
        cases read
        exact ⟨_, rfl, within.push _⟩
  next =>
    split at read
    next allowed =>
      rw [if_pos allowed]
      cases read
      exact ⟨_, rfl, within.push _⟩
    next => contradiction
  next =>
    cases read
    exact ⟨_, rfl, within.push _⟩

/-- Whatever a text goes through on its own, it goes through inside of other groups, too. -/
theorem Within.next [Engine] (within : Within base alone inside) {char : Char}
    (read : alone.next char text = some (after, rest)) (allowed : Allowed base after (inside.next char text)) :
    ∃ later, inside.next char text = some (later, rest) ∧ Within base after later := by
  unfold Reading.next at read allowed ⊢
  rw [within.flags] at allowed ⊢
  revert allowed
  split at read
  · exact within.openParenthesis read
  · intro _
    obtain ⟨closed, found, same⟩ := Option.map_eq_some_iff.mp read
    obtain ⟨other, again, within⟩ := within.closeGroup found
    cases same
    rw [again]
    exact ⟨other, rfl, within⟩
  · intro _
    cases read
    exact ⟨_, rfl, within.startBranch⟩
  · intro _
    rw [Option.bind_eq_bind, Option.bind_eq_some_iff] at read
    obtain ⟨⟨set, depth, tail⟩, found, read⟩ := read
    rw [found]
    cases read
    exact ⟨_, rfl, within.push _⟩
  iterate 3 exact fun _ => within.repeatLast read
  · exact fun _ => within.repeatCounted read
  · intro _
    split at read
    next unicode =>
      rw [if_pos unicode]
      cases read
      exact ⟨_, rfl, within.push _⟩
    next => contradiction
  iterate 2
    intro _
    cases read
    exact ⟨_, rfl, within.push _⟩
  · intro _
    rw [Option.bind_eq_bind, Option.bind_eq_some_iff] at read
    obtain ⟨⟨atom, tail⟩, found, read⟩ := read
    obtain ⟨pushed, taken, same⟩ := Option.map_eq_some_iff.mp read
    obtain ⟨other, again, within⟩ := within.pushAtom taken
    cases same
    rw [found, Option.bind_eq_bind, Option.bind_some]
    dsimp only
    rw [again]
    exact ⟨other, rfl, within⟩
  · intro _
    obtain ⟨pushed, taken, same⟩ := Option.map_eq_some_iff.mp read
    obtain ⟨other, again, within⟩ := within.pushAtom taken
    cases same
    rw [again]
    exact ⟨other, rfl, within⟩

private theorem openNamed_keeps (read : alone.openNamed text = some (after, rest)) : alone.names ⊆ after.names := by
  unfold Reading.openNamed at read
  rw [Option.bind_eq_bind, Option.bind_eq_some_iff] at read
  obtain ⟨⟨name, tail⟩, -, read⟩ := read
  dsimp only at read
  split at read
  · contradiction
  · cases read
    exact List.subset_cons_self _ _

private theorem openFlags_keeps (read : alone.openFlags text = some (after, rest)) : after.names = alone.names := by
  unfold Reading.openFlags at read
  rw [Option.bind_eq_bind, Option.bind_eq_some_iff] at read
  obtain ⟨⟨flags, seen, tail⟩, -, read⟩ := read
  dsimp only at read
  split at read
  · split at read
    · contradiction
    · cases read
      rfl
  · cases read
    rfl
  · contradiction

private theorem openParenthesis_keeps (read : alone.openParenthesis text = some (after, rest)) :
    alone.names ⊆ after.names := by
  unfold Reading.openParenthesis at read
  split at read
  next marked _ =>
    unfold Reading.openMarked at read
    split at read
    iterate 4 contradiction
    · exact openNamed_keeps read
    · exact openNamed_keeps read
    · exact (openFlags_keeps read) ▸ List.Subset.refl _
  next =>
    cases read
    exact List.Subset.refl _

private theorem repeatLast_keeps {least : Nat} {most : Option Nat}
    (read : alone.repeatLast least most text = some (after, rest)) : after.names = alone.names := by
  unfold Reading.repeatLast at read
  split at read
  · cases read
    rfl
  · contradiction

private theorem pushAtom_keeps {atom : Atom} (read : alone.pushAtom atom = some after) : after.names = alone.names := by
  unfold Reading.pushAtom at read
  split at read
  · split at read
    · cases read
      rfl
    · split at read
      · contradiction
      · cases read
        rfl
  · split at read
    · cases read
      rfl
    · contradiction
  · cases read
    rfl

private theorem next_keeps [Engine] {char : Char} (read : alone.next char text = some (after, rest)) :
    alone.names ⊆ after.names := by
  have same (none : after.names = alone.names) : alone.names ⊆ after.names := none ▸ List.Subset.refl _
  unfold Reading.next at read
  split at read
  · exact openParenthesis_keeps read
  · refine same ?_
    obtain ⟨closed, found, given⟩ := Option.map_eq_some_iff.mp read
    cases given
    unfold Reading.closeGroup at found
    split at found
    · contradiction
    · cases found
      rfl
  · cases read
    exact same rfl
  · rw [Option.bind_eq_bind, Option.bind_eq_some_iff] at read
    obtain ⟨⟨set, depth, tail⟩, -, read⟩ := read
    cases read
    exact same rfl
  iterate 3 exact same (repeatLast_keeps read)
  · refine same ?_
    unfold Reading.repeatCounted at read
    rw [Option.bind_eq_bind, Option.bind_eq_some_iff] at read
    obtain ⟨⟨least, most, tail⟩, -, read⟩ := read
    exact repeatLast_keeps read
  · split at read
    · cases read
      exact same rfl
    · contradiction
  iterate 2
    cases read
    exact same rfl
  · rw [Option.bind_eq_bind, Option.bind_eq_some_iff] at read
    obtain ⟨⟨atom, tail⟩, -, read⟩ := read
    obtain ⟨pushed, taken, given⟩ := Option.map_eq_some_iff.mp read
    cases given
    exact same (pushAtom_keeps taken)
  · obtain ⟨pushed, taken, given⟩ := Option.map_eq_some_iff.mp read
    cases given
    exact same (pushAtom_keeps taken)

/-- A parenthesis with nothing but blanks after it opens a group, in which the text ends. -/
theorem openParenthesis_ended (read : alone.openParenthesis text = some (after, rest))
    (blank : skip alone.flags text = []) : rest = [] ∧ after.flags = alone.flags ∧ after.outer ≠ [] := by
  unfold Reading.openParenthesis at read
  rw [blank] at read
  cases read
  exact ⟨rfl, rfl, List.cons_ne_nil _ _⟩

theorem run_nil [Engine] (fuel : Nat) (reading : Reading) : run fuel reading [] = some reading := by
  cases fuel with
  | zero => rw [run, skip_nil, List.isEmpty_nil, if_pos rfl]
  | succ fuel => rw [run, skip_nil]

/-- Going through a number of constructs, with what follows them in view. -/
inductive Goes [Engine] : Nat → Reading → List Char → Reading → List Char → Prop
  | done {reading : Reading} {text : List Char} : Goes 0 reading text reading text
  | next {count : Nat} {reading middle final : Reading} {char : Char} {text rest left last : List Char}
      (start : skip reading.flags text = char :: rest) (consumed : reading.next char rest = some (middle, left))
      (later : Goes count middle left final last) : Goes (count + 1) reading text final last

theorem Goes.trans [Engine] {count more : Nat} {reading middle final : Reading} {text rest last : List Char}
    (first : Goes count reading text middle rest) (second : Goes more middle rest final last) :
    Goes (count + more) reading text final last := by
  induction first with
  | done => rwa [Nat.zero_add]
  | next start consumed _ ih =>
    rw [Nat.succ_add]
    exact .next start consumed (ih second)

theorem Goes.run [Engine] {count : Nat} {reading final : Reading} {text last : List Char}
    (goes : Goes count reading text final last) (fuel : Nat) :
    Reading.run (count + fuel) reading text = Reading.run fuel final last := by
  induction goes with
  | done => rw [Nat.zero_add]
  | next start consumed _ ih =>
    rw [Nat.succ_add, Reading.run, start]
    dsimp only
    rw [consumed, Option.bind_eq_bind, Option.bind_some]
    exact ih

/-- Whoever comes to an end has gone on from there. -/
theorem Goes.resume [Engine] {count : Nat} {reading final ended : Reading} {text last : List Char}
    (goes : Goes count reading text final last) {fuel : Nat} (reached : Reading.run fuel reading text = some ended) :
    ∃ rest, Reading.run rest final last = some ended := by
  induction goes generalizing fuel with
  | done => exact ⟨fuel, reached⟩
  | next start consumed _ ih =>
    cases fuel with
    | zero =>
      rw [Reading.run, start] at reached
      contradiction
    | succ fuel =>
      rw [Reading.run, start] at reached
      dsimp only at reached
      rw [consumed] at reached
      exact ih reached

private theorem Goes.keeps [Engine] {count : Nat} {reading final : Reading} {text last : List Char}
    (goes : Goes count reading text final last) : reading.names ⊆ final.names := by
  induction goes with
  | done => exact List.Subset.refl _
  | next start consumed _ ih => exact List.Subset.trans (next_keeps consumed) ih

theorem Goes.of_nil [Engine] {count : Nat} {reading final : Reading} {last : List Char}
    (goes : Goes count reading [] final last) : final = reading ∧ last = [] := by
  cases goes with
  | done => exact ⟨rfl, rfl⟩
  | next start =>
    rw [skip_nil] at start
    contradiction

/-- What is left of a text that was read to its end are blanks and comments. -/
theorem goes_of_run [Engine] {fuel : Nat} {reading final : Reading} {text : List Char}
    (read : run fuel reading text = some final) :
    ∃ used ≤ fuel, ∃ left, skip final.flags left = [] ∧ Goes used reading text final left := by
  induction fuel generalizing reading text with
  | zero =>
    rw [run] at read
    split at read
    next blank =>
      cases read
      exact ⟨0, Nat.le_refl _, text, List.isEmpty_iff.mp blank, .done⟩
    next => contradiction
  | succ fuel ih =>
    rw [run] at read
    split at read
    next blank =>
      cases read
      exact ⟨0, Nat.zero_le _, text, blank, .done⟩
    next char rest start =>
      rw [Option.bind_eq_bind, Option.bind_eq_some_iff] at read
      obtain ⟨⟨next, tail⟩, consumed, read⟩ := read
      obtain ⟨used, enough, left, blank, goes⟩ := ih read
      exact ⟨used + 1, Nat.succ_le_succ enough, left, blank, .next start consumed goes⟩

variable {closer : Char}

/-- What a text goes through on its own, it goes through inside of other groups up to the closer after it, if the
names in it are not given before, or if it was read there. A parenthesis must not be the last of it before a comment,
which would run on over the closer. -/
theorem Goes.within [Engine] {count : Nat} {last : Reading} {left : List Char}
    (goes : Goes count alone text last left)
    (ended : last.outer = [] ∨ last.flags.ignoreBlanks = false ∨ skip last.flags left ≠ [])
    {after : List Char} (closes : closer ∈ closers) (within : Within base alone inside)
    (given : (∀ name ∈ last.names, name ∉ base.names) ∨
      ∃ more final, Reading.run more inside (text ++ closer :: after) = some final) :
    ∃ later, Within base last later ∧
      Goes count inside (text ++ closer :: after) later (left ++ closer :: after) := by
  induction goes generalizing inside with
  | done => exact ⟨inside, within, .done⟩
  | @next count reading middle final char text rest tail left start consumed others ih =>
    have solid : char = '(' → skip reading.flags rest = [] → reading.flags.ignoreBlanks = false := by
      intro same blank
      subst same
      obtain ⟨none, flags, opened⟩ := openParenthesis_ended consumed blank
      subst none
      obtain ⟨rfl, rfl⟩ := others.of_nil
      rw [← flags]
      rcases ended with closed | plain | more
      · exact absurd closed opened
      · exact plain
      · exact absurd (skip_nil _) more
    have start : skip inside.flags (text ++ closer :: after) = char :: (rest ++ closer :: after) := by
      rw [within.flags]
      exact skip_cons _ start
    have allowed : Allowed base middle (inside.next char (rest ++ closer :: after)) := by
      rcases given with fresh | ⟨more, reached, again⟩
      · exact .inl fun name member => fresh name (others.keeps member)
      · cases more with
        | zero =>
          rw [Reading.run, start] at again
          contradiction
        | succ more =>
          rw [Reading.run, start] at again
          obtain ⟨step, again, -⟩ := Option.bind_eq_some_iff.mp again
          exact .inr (Option.isSome_of_eq_some again)
    obtain ⟨other, again, within⟩ := Within.next within (next_append closes consumed solid after) allowed
    have here : Goes 1 inside (text ++ closer :: after) other (tail ++ closer :: after) := .next start again .done
    have given : (∀ name ∈ final.names, name ∉ base.names) ∨
        ∃ more reached, Reading.run more other (tail ++ closer :: after) = some reached := by
      refine given.imp_right ?_
      rintro ⟨more, reached, again⟩
      obtain ⟨rest, again⟩ := here.resume again
      exact ⟨rest, reached, again⟩
    obtain ⟨later, within, goes⟩ := ih ended within given
    exact ⟨later, within, .next start again goes⟩

/-- A text that can be read on its own is read inside of other groups up to the closer after it, if the names in
it are not given before, or if it was read there. What is `left` before the closer are blanks and comments. -/
theorem run_within [Engine] {fuel : Nat} {last : Reading} (read : run fuel alone text = some last)
    (ended : last.outer = [] ∨ last.flags.ignoreBlanks = false) :
    ∃ left, skip last.flags left = [] ∧
      ∀ base inside closer after, closer ∈ closers → Within base alone inside →
      ((∀ name ∈ last.names, name ∉ base.names) ∨
        ∃ more final, run more inside (text ++ closer :: after) = some final) →
      ∃ used ≤ fuel, ∃ later, Within base last later ∧
        Goes used inside (text ++ closer :: after) later (left ++ closer :: after) := by
  obtain ⟨used, enough, left, blank, goes⟩ := goes_of_run read
  refine ⟨left, blank, ?_⟩
  intro base inside closer after closes within given
  obtain ⟨later, within, goes⟩ := goes.within (ended.imp_right .inl) closes within given
  exact ⟨used, enough, later, within, goes⟩

end Reading

end TextScenario.Regex
