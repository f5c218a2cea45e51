import TextScenario.Proofs.RegexReadings

/-! Fragments of expressions. A fragment is contained if what is put around it cannot change how it is read:
it is an expression that ends before a parenthesis that closes a group around it, or reading breaks off in it, or
it has parentheses too many. The ones that it leaves open only its own could close, and those that it closes more
than it opens nothing around it can make up for, unless another fragment errs on the other side. -/

namespace TextScenario.Regex

/-- Whether a text is an expression, however large. -/
def IsExpression [Engine] (text : List Char) : Prop :=
  ∃ reading, Reading.run text.length {} text = some reading ∧ reading.outer = []

/-- An expression that does not run on over a parenthesis after it. -/
structure Closed [Engine] (text : List Char) : Prop where
  alone : IsExpression text
  enclosed : IsExpression ("(?:".toList ++ text ++ [')'])

/-- Closed expressions with a number of parentheses between them. -/
inductive Closes [Engine] : Nat → List Char → Prop
  | last {text : List Char} (closed : Closed text) : Closes 0 text
  | next {count : Nat} {text rest : List Char} (closed : Closed text) (later : Closes count rest) :
    Closes (count + 1) (text ++ ')' :: rest)

/-- Whether no flag is set, neither now nor after a group is closed. -/
structure Reading.Plain (reading : Reading) : Prop where
  flags : reading.flags = {}
  outer : ∀ group ∈ reading.outer, group.flags = {}

/-- On which side a fragment may have parentheses too many. -/
inductive Side where
  | opening
  | closing

inductive Contained [Engine] (side : Side) (fragment : List Char) : Prop
  | closed (own : Closed fragment)
  | unclosed (errs : side = .opening) {reading : Reading}
      (read : Reading.run fragment.length {} fragment = some reading) (opened : reading.outer ≠ [])
      (plain : reading.Plain)
  | overclosed (errs : side = .closing) {count : Nat} (closes : Closes (count + 1) fragment)
  | broken {count : Nat} {reading : Reading} {char : Char} {text rest : List Char}
      (goes : Reading.Goes count {} fragment reading text) (start : skip reading.flags text = char :: rest)
      (inner : char = ')' → reading.outer ≠ []) (fails : ∀ after, reading.next char (rest ++ ')' :: after) = none)

namespace Reading

/-- A reading that has just opened a group. -/
structure Fresh (reading : Reading) : Prop where
  flags : reading.flags = {}
  items : reading.items = []
  branches : reading.branches = []

/-- What a text goes on from that is read next. -/
def base (reading : Reading) : Base :=
  { items := reading.items, branches := reading.branches, outer := reading.outer, names := reading.names }

theorem within_base {reading : Reading} (flags : reading.flags = {}) : Within reading.base {} reading :=
  ⟨flags, .bottom .nil, rfl, List.forall_mem_nil _⟩

/-- Reading goes on with what is left after blanks and comments. -/
theorem run_congr [Engine] {reading : Reading} {text other : List Char}
    (same : skip reading.flags text = skip reading.flags other) (fuel : Nat) :
    run fuel reading text = run fuel reading other := by
  cases fuel with
  | zero => rw [run, run, same]
  | succ fuel => rw [run, run, same]

theorem Frames.outer_eq {base : Base} {items others : List Item} {branches further : List Node}
    {outer around : List OpenGroup} (frames : Frames base items branches outer others further around)
    (ended : outer = []) : around = base.outer := by
  cases frames with
  | bottom | parted => rfl
  | nested => contradiction

theorem Within.outer_eq {base : Base} {alone inside : Reading} (within : Within base alone inside)
    (ended : alone.outer = []) : inside.outer = base.outer :=
  within.frames.outer_eq ended

section

variable {base : Base} {alone inside : Reading} {text : List Char}

private theorem Frames.nothing {others : List Item} {branches further : List Node} {outer around : List OpenGroup}
    (frames : Frames base [] branches outer others further around) (fresh : base.items = []) : others = [] := by
  cases frames with
  | bottom alike =>
    cases alike
    exact fresh
  | parted alike | nested alike =>
    cases alike
    rfl

private theorem Within.repeatLast_refused (within : Within base alone inside) (fresh : base.items = []) {least : Nat}
    {most : Option Nat} (refused : alone.repeatLast least most text = none) :
    inside.repeatLast least most text = none := by
  have frames := within.frames
  unfold Reading.repeatLast at refused ⊢
  split at refused
  · contradiction
  next single =>
    cases items : alone.items with
    | nil =>
      rw [items] at frames
      rw [frames.nothing fresh]
    | cons first rest =>
      rw [items] at frames
      obtain ⟨other, more, found, alike, -⟩ := frames.uncons
      cases alike with
      | node => exact absurd items (single _ _)
      | flags => rw [found]

private theorem Within.repeatCounted_refused (within : Within base alone inside) (fresh : base.items = [])
    (refused : alone.repeatCounted text = none) : inside.repeatCounted text = none := by
  unfold Reading.repeatCounted at refused ⊢
  rw [within.flags]
  cases bounded : readBounds alone.flags text with
  | none => rfl
  | some bounds =>
    rw [bounded] at refused
    exact within.repeatLast_refused fresh refused

private theorem Within.pushAtom_refused (within : Within base alone inside) {atom : Atom}
    (refused : alone.pushAtom atom = none) : inside.pushAtom atom = none := by
  unfold Reading.pushAtom at refused ⊢
  rw [within.flags]
  cases atom with
  | char own isByte =>
    dsimp only at refused ⊢
    split at refused
    · contradiction
    next bytes =>
      split at refused
      next beyond => rw [if_neg bytes, if_pos beyond]
      · contradiction
  | set own =>
    dsimp only at refused ⊢
    split at refused
    · contradiction
    next beyond => rw [if_neg beyond]
  | look => contradiction

private theorem Within.openNamed_refused (within : Within base alone inside) (refused : alone.openNamed text = none) :
    inside.openNamed text = none := by
  unfold Reading.openNamed at refused ⊢
  cases found : readName text with
  | none => rfl
  | some read =>
    rw [found, Option.bind_eq_bind, Option.bind_some] at refused
    dsimp only at refused
    split at refused
    next known =>
      have given : inside.names.contains (String.ofList read.1) = true := by
        rw [List.contains_iff_mem] at known ⊢
        rw [within.names]
        exact List.mem_append_left _ known
      rw [Option.bind_eq_bind, Option.bind_some]
      exact if_pos given
    · contradiction

private theorem Within.openFlags_refused (within : Within base alone inside) (refused : alone.openFlags text = none) :
    inside.openFlags text = none := by
  unfold Reading.openFlags at refused ⊢
  rw [within.flags]
  cases found : readFlags alone.flags [] text with
  | none => rfl
  | some read =>
    rw [found, Option.bind_eq_bind, Option.bind_some] at refused
    rw [Option.bind_eq_bind, Option.bind_some]
    dsimp only at refused ⊢
    split at refused
    next =>
      split at refused
      next none => rw [if_pos none]
      · contradiction
    · contradiction
    next => rfl

private theorem Within.openParenthesis_refused (within : Within base alone inside)
    (refused : alone.openParenthesis text = none) : inside.openParenthesis text = none := by
  unfold Reading.openParenthesis at refused ⊢
  rw [within.flags]
  split at refused
  next =>
    unfold Reading.openMarked at refused ⊢
    split at refused
    iterate 4 rfl
    · exact within.openNamed_refused refused
    · exact within.openNamed_refused refused
    · exact within.openFlags_refused refused
  · contradiction

/-- Where a text breaks off on its own, it breaks off in a group that it is the first in. -/
theorem Within.next_refused [Engine] (within : Within base alone inside) (fresh : base.items = []) {char : Char}
    (inner : char = ')' → alone.outer ≠ []) (refused : alone.next char text = none) :
    inside.next char text = none := by
  unfold Reading.next at refused ⊢
  rw [within.flags]
  split at refused
  · exact within.openParenthesis_refused refused
  · obtain ⟨group, outer, opened⟩ := List.exists_cons_of_ne_nil (inner rfl)
    rw [Option.map_eq_none_iff, Reading.closeGroup, opened] at refused
    contradiction
  · contradiction
  · cases found : readSet alone.flags text with
    | none => rfl
    | some read =>
      rw [found] at refused
      contradiction
  iterate 3 exact within.repeatLast_refused fresh refused
  · exact within.repeatCounted_refused fresh refused
  · split at refused
    · contradiction
    next bytes => rw [if_neg bytes]
  iterate 2 contradiction
  · cases found : readEscape alone.flags text with
    | none => rfl
    | some read =>
      rw [found, Option.bind_eq_bind, Option.bind_some, Option.map_eq_none_iff] at refused
      rw [Option.bind_eq_bind, Option.bind_some, Option.map_eq_none_iff]
      exact within.pushAtom_refused refused
  · rw [Option.map_eq_none_iff] at refused ⊢
    exact within.pushAtom_refused refused

end

variable {fragment : List Char}

/-- A closed fragment ends right before the parenthesis that closes the group it is in. -/
theorem run_closed [Engine] (own : Closed fragment) :
    ∃ last, run fragment.length {} fragment = some last ∧ last.outer = [] ∧
      ∀ inside after more final, inside.flags = {} → run more inside (fragment ++ ')' :: after) = some final →
        ∃ later rest, Within inside.base last later ∧ run rest later (')' :: after) = some final := by
  obtain ⟨last, read, ended⟩ := own.alone
  obtain ⟨left, blank, goesOn⟩ := run_within read (.inl ended)
  refine ⟨last, read, ended, ?_⟩
  have closes : ∀ after, skip last.flags (left ++ ')' :: after) = ')' :: after := by
    refine (skip_closing blank).resolve_right ?_
    intro swallowed
    obtain ⟨final, whole, finished⟩ := own.enclosed
    let group : OpenGroup := { items := [], branches := [], flags := {}, capture := none }
    have length : ("(?:".toList ++ fragment ++ [')']).length = fragment.length + 3 + 1 := by
      simp
    have opened : run (fragment.length + 3) { outer := [group] } (fragment ++ [')']) = some final := by
      rw [length] at whole
      exact whole
    obtain ⟨used, -, later, within, goes⟩ :=
      goesOn _ _ ')' [] (by decide) (within_base rfl) (.inr ⟨_, _, opened⟩)
    obtain ⟨rest, reached⟩ := goes.resume opened
    have stopped : run rest later (left ++ [')']) = some later := by
      rw [run_congr (within.flags ▸ swallowed.trans (skip_nil last.flags).symm), run_nil]
    cases reached.symm.trans stopped
    exact List.cons_ne_nil _ _ ((within.outer_eq ended).symm.trans finished)
  intro inside after more final plain reached
  obtain ⟨used, -, later, within, goes⟩ :=
    goesOn _ _ ')' after (by decide) (within_base plain) (.inr ⟨_, _, reached⟩)
  obtain ⟨rest, reached⟩ := goes.resume reached
  refine ⟨later, rest, within, ?_⟩
  rw [← reached]
  apply run_congr
  rw [within.flags, closes, skip_parenthesis]

theorem run_parenthesis [Engine] {reading final : Reading} {fuel : Nat} {after : List Char}
    (reached : run fuel reading (')' :: after) = some final) :
    ∃ closed rest, reading.closeGroup = some closed ∧ run rest closed after = some final := by
  cases fuel with
  | zero =>
    rw [run, skip_parenthesis] at reached
    contradiction
  | succ fuel =>
    rw [run, skip_parenthesis] at reached
    obtain ⟨⟨closed, left⟩, consumed, reached⟩ := Option.bind_eq_some_iff.mp reached
    obtain ⟨group, found, same⟩ := Option.map_eq_some_iff.mp consumed
    cases same
    exact ⟨closed, fuel, found, reached⟩

private theorem Plain.closeGroup {reading closed : Reading} (outside : ∀ group ∈ reading.outer, group.flags = {})
    (closes : reading.closeGroup = some closed) :
    closed.Plain ∧ closed.outer.length + 1 = reading.outer.length := by
  unfold Reading.closeGroup at closes
  cases opened : reading.outer with
  | nil =>
    rw [opened] at closes
    contradiction
  | cons parent outer =>
    rw [opened] at closes outside
    obtain ⟨here, beyond⟩ := List.forall_mem_cons.mp outside
    cases closes
    exact ⟨⟨here, beyond⟩, rfl⟩

/-- With the parenthesis after them, closed expressions close a group each. -/
theorem run_closes [Engine] {count : Nat} (closes : Closes count fragment) {inside final : Reading}
    {after : List Char} {more : Nat} (plain : inside.Plain)
    (reached : run more inside (fragment ++ ')' :: after) = some final) :
    ∃ later rest, later.Plain ∧ later.outer.length + (count + 1) = inside.outer.length ∧
      run rest later after = some final := by
  have passed {text after : List Char} {more : Nat} {inside : Reading} (own : Closed text) (plain : inside.Plain)
      (reached : run more inside (text ++ ')' :: after) = some final) :
      ∃ closed rest, closed.Plain ∧ closed.outer.length + 1 = inside.outer.length ∧
        run rest closed after = some final := by
    obtain ⟨last, -, ended, goesOn⟩ := run_closed own
    obtain ⟨later, rest, within, reached⟩ := goesOn inside _ more final plain.flags reached
    obtain ⟨closed, rest, closes, reached⟩ := run_parenthesis reached
    have same : later.outer = inside.outer := within.outer_eq ended
    obtain ⟨settled, fewer⟩ := Plain.closeGroup (same ▸ plain.outer) closes
    exact ⟨closed, rest, settled, same ▸ fewer, reached⟩
  induction closes generalizing inside more with
  | last own => exact passed own plain reached
  | next own _ ih =>
    rw [List.append_assoc, List.cons_append] at reached
    obtain ⟨closed, rest, settled, fewer, reached⟩ := passed own plain reached
    obtain ⟨later, rest, plain, others, reached⟩ := ih settled reached
    exact ⟨later, rest, plain, by omega, reached⟩

/-- Reading a text that breaks off on its own ends there in any group that is opened for it. -/
theorem run_broken [Engine] {count : Nat} {reading : Reading} {char : Char} {text rest : List Char}
    (goes : Goes count {} fragment reading text) (start : skip reading.flags text = char :: rest)
    (inner : char = ')' → reading.outer ≠ []) (fails : ∀ after, reading.next char (rest ++ ')' :: after) = none)
    {inside : Reading} (fresh : inside.Fresh) (fuel : Nat) (after : List Char) :
    run fuel inside (fragment ++ ')' :: after) = none := by
  cases reached : run fuel inside (fragment ++ ')' :: after) with
  | none => rfl
  | some final =>
    have solid : skip reading.flags text ≠ [] := by
      rw [start]
      exact List.cons_ne_nil _ _
    obtain ⟨later, within, goes⟩ :=
      goes.within (.inr (.inr solid)) (by decide) (within_base fresh.flags) (.inr ⟨_, _, reached⟩)
    obtain ⟨more, reached⟩ := goes.resume reached
    have start : skip later.flags (text ++ ')' :: after) = char :: (rest ++ ')' :: after) := by
      rw [within.flags]
      exact skip_cons _ start
    have refused := within.next_refused fresh.items inner (fails after)
    cases more with
    | zero =>
      rw [run, start] at reached
      contradiction
    | succ more =>
      rw [run, start] at reached
      dsimp only at reached
      rw [refused] at reached
      contradiction

private theorem Frames.plain {base : Base} {items others : List Item} {branches further : List Node}
    {outer around : List OpenGroup} (frames : Frames base items branches outer others further around)
    (alone : ∀ group ∈ outer, group.flags = {}) (outside : ∀ group ∈ base.outer, group.flags = {}) :
    ∀ group ∈ around, group.flags = {} := by
  induction frames with
  | bottom | parted => exact outside
  | nested alike parts flags capture below ih =>
    obtain ⟨here, later⟩ := List.forall_mem_cons.mp alone
    exact List.forall_mem_cons.mpr ⟨flags.trans here, ih later⟩

private theorem Frames.length {base : Base} {items others : List Item} {branches further : List Node}
    {outer around : List OpenGroup} (frames : Frames base items branches outer others further around) :
    around.length = outer.length + base.outer.length := by
  induction frames with
  | bottom | parted => exact (Nat.zero_add _).symm
  | nested alike parts flags capture below ih => rw [List.length_cons, List.length_cons, ih, Nat.succ_add]

/-- An unclosed fragment takes the parenthesis that should close the group around it for one of its own. -/
theorem run_unclosed [Engine] {last : Reading} (read : run fragment.length {} fragment = some last)
    (opened : last.outer ≠ []) (plain : last.Plain) {inside final : Reading} {after : List Char} {more : Nat}
    (fresh : inside.Fresh) (outside : ∀ group ∈ inside.outer, group.flags = {})
    (reached : run more inside (fragment ++ ')' :: after) = some final) :
    ∃ later rest, later.Plain ∧ inside.outer.length ≤ later.outer.length ∧
      run rest later after = some final := by
  have counted : last.flags.ignoreBlanks = false := by rw [plain.flags]
  obtain ⟨left, blank, goesOn⟩ := run_within read (.inr counted)
  obtain ⟨used, -, later, within, goes⟩ :=
    goesOn _ _ ')' after (by decide) (within_base fresh.flags) (.inr ⟨_, _, reached⟩)
  obtain ⟨rest, reached⟩ := goes.resume reached
  have nothing : left = [] := by
    rw [skip, counted] at blank
    exact blank
  subst nothing
  obtain ⟨closed, rest, closes, reached⟩ := run_parenthesis reached
  have frames := within.frames
  obtain ⟨first, others, found⟩ := List.exists_cons_of_ne_nil opened
  rw [found] at frames
  obtain ⟨parent, around, outer, flags, -, below⟩ := frames.unnest
  obtain ⟨here, beyond⟩ := List.forall_mem_cons.mp (found ▸ plain.outer)
  unfold Reading.closeGroup at closes
  rw [outer] at closes
  cases closes
  refine ⟨_, rest, ⟨flags.trans here, below.plain beyond outside⟩, ?_, reached⟩
  rw [below.length]
  exact Nat.le_add_left _ _

end Reading

end TextScenario.Regex
