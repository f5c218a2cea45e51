import TextScenario.Proofs.RegexPlaces

/-! What an expression takes of an input, as a relation between offsets, beside the search for stops. The search
leaves out places and rounds that it has met before, but it loses no offset by it: the stops of an expression
are exactly the ends of what it takes from its starts. -/

namespace TextScenario.Regex

/-- A number of steps, one after the other. -/
def Steps (step : Nat → Nat → Prop) : Nat → Nat → Nat → Prop
  | 0, first, last => first = last
  | count + 1, first, last => ∃ next, step first next ∧ Steps step count next last

/-- Whether an expression takes what stands between two offsets of an input. -/
def Spans (input : List Char) : Regex → Nat → Nat → Prop
  | .empty => fun first last => last = first
  | .chars set => fun first last =>
    ∃ char, input[first]? = some char ∧ set.contains char = true ∧ last = first + 1
  | .look kind => fun first last =>
    last = first ∧ kind.holds (input.take first).getLast? input[first]? = true
  | .concat left right => fun first last => ∃ next, left.Spans input first next ∧ right.Spans input next last
  | .alternate left right => fun first last => left.Spans input first last ∨ right.Spans input first last
  | .repeated inner least most _ => fun first last =>
    ∃ count, least ≤ count ∧ (∀ bound ∈ most, count ≤ max least bound) ∧
      Steps (inner.Spans input) count first last
  | .group _ _ inner => inner.Spans input

theorem Steps.trans {step : Nat → Nat → Prop} {count more first next last : Nat}
    (before : Steps step count first next) (after : Steps step more next last) :
    Steps step (count + more) first last := by
  induction count generalizing first with
  | zero =>
    cases before
    rwa [Nat.zero_add]
  | succ count ih =>
    obtain ⟨middle, here, before⟩ := before
    rw [Nat.succ_add]
    exact ⟨middle, here, ih before⟩

private theorem Steps.single {step : Nat → Nat → Prop} {first last : Nat} (here : step first last) :
    Steps step 1 first last :=
  ⟨last, here, rfl⟩

private theorem Steps.split {step : Nat → Nat → Prop} {count more first last : Nat}
    (steps : Steps step (count + more) first last) :
    ∃ next, Steps step count first next ∧ Steps step more next last := by
  induction count generalizing first with
  | zero => exact ⟨first, rfl, by rwa [Nat.zero_add] at steps⟩
  | succ count ih =>
    rw [Nat.succ_add] at steps
    obtain ⟨middle, here, steps⟩ := steps
    obtain ⟨next, before, after⟩ := ih steps
    exact ⟨next, ⟨middle, here, before⟩, after⟩

private theorem Steps.onward {step : Nat → Nat → Prop} (onward : ∀ first last, step first last → first ≤ last)
    {count first last : Nat} (steps : Steps step count first last) : first ≤ last := by
  induction count generalizing first with
  | zero => exact Nat.le_of_eq steps
  | succ count ih =>
    obtain ⟨next, here, steps⟩ := steps
    exact Nat.le_trans (onward first next here) (ih steps)

/-- Whether a place lies in an input, with what stands before it. -/
structure Place.Lies (input : List Char) (place : Place) : Prop where
  rest : place.rest = input.drop place.offset
  previous : place.previous = (input.take place.offset).getLast?
  inside : place.offset ≤ input.length

variable {input : List Char}

private theorem Place.Lies.step? {place next : Place} {set : CharSet} (lies : place.Lies input)
    (stepped : place.step? set = some next) : next.Lies input := by
  obtain ⟨char, rest, found, -, rfl⟩ := Place.step?_eq_some stepped
  have start : input.drop place.offset = char :: rest := lies.rest.symm.trans found
  have here : input[place.offset]? = some char := by
    rw [← List.head?_drop, start, List.head?_cons]
  refine ⟨?_, ?_, ?_⟩
  · dsimp only
    rw [← List.drop_drop, start, List.drop_one, List.tail_cons]
  · dsimp only
    rw [List.take_add_one, here, Option.toList_some, List.getLast?_append, List.getLast?_singleton,
      Option.some_or]
  · exact (List.getElem?_eq_some_iff.mp here).1

private theorem Place.Lies.close {place : Place} (lies : place.Lies input) (index : Nat) :
    (place.close index).Lies input := by
  unfold Place.close
  split <;> exact ⟨lies.rest, lies.previous, lies.inside⟩

private theorem Place.Lies.head? {place : Place} (lies : place.Lies input) :
    place.rest.head? = input[place.offset]? := by
  rw [lies.rest, List.head?_drop]

private theorem Place.Lies.room {place : Place} (lies : place.Lies input) :
    place.rest.length = input.length - place.offset := by
  rw [lies.rest, List.length_drop]

theorem stops_lie (regex : Regex) {starts : List Place} (lie : ∀ place ∈ starts, place.Lies input) :
    ∀ stop ∈ regex.stops starts, stop.Lies input :=
  stops_all (fun _ _ _ => Place.Lies.step?)
    (fun _ here => ⟨here.rest, here.previous, here.inside⟩) (fun _ index here => here.close index) regex lie

def offsets (places : List Place) : List Nat :=
  places.map Place.offset

theorem mem_offsets {places : List Place} {offset : Nat} :
    offset ∈ offsets places ↔ ∃ place ∈ places, place.offset = offset :=
  List.mem_map

private theorem mem_offsets_distinctFrom {seen : List Nat} {places : List Place} {offset : Nat}
    (member : offset ∈ offsets places) : offset ∈ seen ∨ offset ∈ offsets (distinctFrom seen places) := by
  induction places generalizing seen with
  | nil => cases member
  | cons first rest ih =>
    rw [offsets, List.map_cons, List.mem_cons] at member
    rw [distinctFrom]
    split
    next known =>
      rcases member with rfl | member
      · exact .inl (List.contains_iff_mem.mp known)
      · exact ih member
    next =>
      rw [offsets, List.map_cons, List.mem_cons]
      rcases member with rfl | member
      · exact .inr (.inl rfl)
      · have later : offset ∈ first.offset :: seen ∨ offset ∈ offsets (distinctFrom (first.offset :: seen) rest) :=
          ih member
        rcases later with known | kept
        · rcases List.mem_cons.mp known with rfl | known
          · exact .inr (.inl rfl)
          · exact .inl known
        · exact .inr (.inr kept)

private theorem mem_offsets_distinct {places : List Place} {offset : Nat} :
    offset ∈ offsets (distinct places) ↔ offset ∈ offsets places := by
  constructor
  · intro member
    obtain ⟨place, kept, same⟩ := mem_offsets.mp member
    exact mem_offsets.mpr ⟨place, distinct_mem kept, same⟩
  · intro member
    unfold distinct
    split
    · exact member
    · exact member
    · exact (mem_offsets_distinctFrom member).resolve_left (by simp)

private theorem mem_offsets_reverse {places : List Place} {offset : Nat} :
    offset ∈ offsets places.reverse ↔ offset ∈ offsets places := by
  rw [offsets, List.map_reverse, List.mem_reverse, offsets]

section Repetition

/-- A round that ends exactly where a step leads to, in the same input. -/
structure Exact (input : List Char) (step : Nat → Nat → Prop) (body : Place → List Place) : Prop where
  lie : ∀ place, place.Lies input → ∀ reached ∈ body place, reached.Lies input
  ends : ∀ place, place.Lies input → ∀ offset, offset ∈ offsets (body place) ↔ step place.offset offset
  onward : ∀ first last, step first last → first ≤ last

variable {step : Nat → Nat → Prop} {body : Place → List Place}

/-- What was entered between two states of a repetition is followed up: from where a round was begun every step
leads to where a round was ended, and from there a round was begun and a stop found. -/
structure Rounds.Grows (step : Nat → Nat → Prop) (rounds after : Rounds) : Prop where
  keepsBegun : ∀ offset ∈ rounds.begun, offset ∈ after.begun
  keepsEnded : ∀ offset ∈ rounds.ended, offset ∈ after.ended
  keepsStops : ∀ offset ∈ offsets rounds.stops, offset ∈ offsets after.stops
  begun : ∀ offset ∈ after.begun, offset ∈ rounds.begun ∨ ∀ next, step offset next → next ∈ after.ended
  ended : ∀ offset ∈ after.ended, offset ∈ rounds.ended ∨
    offset ∈ after.begun ∧ offset ∈ offsets after.stops

theorem Rounds.Grows.refl (rounds : Rounds) : rounds.Grows step rounds :=
  ⟨fun _ => id, fun _ => id, fun _ => id, fun _ => .inl, fun _ => .inl⟩

theorem Rounds.Grows.trans {rounds middle after : Rounds} (first : rounds.Grows step middle)
    (second : middle.Grows step after) : rounds.Grows step after where
  keepsBegun offset member := second.keepsBegun offset (first.keepsBegun offset member)
  keepsEnded offset member := second.keepsEnded offset (first.keepsEnded offset member)
  keepsStops offset member := second.keepsStops offset (first.keepsStops offset member)
  begun offset member := by
    rcases second.begun offset member with before | followed
    · refine (first.begun offset before).imp_right fun followed next steps => ?_
      exact second.keepsEnded next (followed next steps)
    · exact .inr followed
  ended offset member := by
    rcases second.ended offset member with before | found
    · refine (first.ended offset before).imp_right fun ⟨begun, stopped⟩ => ?_
      exact ⟨second.keepsBegun offset begun, second.keepsStops offset stopped⟩
    · exact .inr found

private theorem Rounds.Grows.stop (rounds : Rounds) (place : Place) :
    rounds.Grows step { rounds with stops := place :: rounds.stops } :=
  ⟨fun _ => id, fun _ => id, fun _ => .tail _, fun _ => .inl, fun _ => .inl⟩

/-- The end of a round is followed up if a round is begun there and a stop found. -/
theorem Rounds.Grows.end {rounds after : Rounds} {offset : Nat}
    (grows : Rounds.Grows step { rounds with ended := offset :: rounds.ended } after)
    (begun : offset ∈ after.begun) (stopped : offset ∈ offsets after.stops) : rounds.Grows step after where
  keepsBegun := grows.keepsBegun
  keepsEnded other member := grows.keepsEnded other (.tail _ member)
  keepsStops := grows.keepsStops
  begun := grows.begun
  ended other member := by
    rcases grows.ended other member with before | found
    · rcases List.mem_cons.mp before with rfl | before
      · exact .inr ⟨begun, stopped⟩
      · exact .inl before
    · exact .inr found

private theorem Rounds.Grows.begin {rounds after : Rounds} {offset : Nat}
    (grows : Rounds.Grows step { rounds with begun := offset :: rounds.begun } after)
    (followed : ∀ next, step offset next → next ∈ after.ended) : rounds.Grows step after where
  keepsBegun other member := grows.keepsBegun other (.tail _ member)
  keepsEnded := grows.keepsEnded
  keepsStops := grows.keepsStops
  begun other member := by
    rcases grows.begun other member with before | done
    · rcases List.mem_cons.mp before with rfl | before
      · exact .inr followed
      · exact .inl before
    · exact .inr done
  ended := grows.ended

private theorem Rounds.begin_begun (greedy : Bool) (fuel : Nat) {rounds : Rounds} {place : Place}
    (begun : place.offset ∈ rounds.begun) : Rounds.begin body greedy fuel rounds place = rounds := by
  cases fuel with
  | zero => rfl
  | succ fuel => rw [Rounds.begin, if_pos (List.contains_iff_mem.mpr begun)]

/-- Places that are visited one after the other are all marked, and what is entered is followed up. -/
theorem Rounds.foldl_follows {mark : Rounds → List Nat}
    (kept : ∀ {rounds after : Rounds}, rounds.Grows step after → ∀ offset ∈ mark rounds, offset ∈ mark after)
    (visit : Rounds → Place → Rounds) (base : Rounds) (places : List Place)
    (visits : ∀ state : Rounds, base.Grows step state → ∀ place ∈ places,
      state.Grows step (visit state place) ∧ place.offset ∈ mark (visit state place)) :
    base.Grows step (places.foldl visit base) ∧
      ∀ offset ∈ offsets places, offset ∈ mark (places.foldl visit base) := by
  suffices goesOn : ∀ state : Rounds, base.Grows step state → state.Grows step (places.foldl visit state) ∧
      ∀ offset ∈ offsets places, offset ∈ mark (places.foldl visit state) from goesOn base (.refl base)
  induction places with
  | nil => exact fun state _ => ⟨.refl state, by simp [offsets]⟩
  | cons first rest ih =>
    intro state grown
    obtain ⟨grows, marked⟩ := visits state grown first (.head _)
    obtain ⟨later, others⟩ := ih (fun state grown place member => visits state grown place (.tail _ member))
      (visit state first) (grown.trans grows)
    refine ⟨grows.trans later, ?_⟩
    exact List.forall_mem_cons.mpr ⟨kept later _ marked, others⟩

def Rounds.atEnd (body : Place → List Place) (greedy : Bool) (fuel : Nat) (rounds : Rounds) (reached : Place) :
    Rounds :=
  if rounds.ended.contains reached.offset then rounds
  else
    let rounds := { rounds with ended := reached.offset :: rounds.ended }
    if greedy then
      let rounds := Rounds.begin body greedy fuel rounds reached
      { rounds with stops := reached :: rounds.stops }
    else
      let rounds := { rounds with stops := reached :: rounds.stops }
      Rounds.begin body greedy fuel rounds reached

theorem Rounds.begin_succ (body : Place → List Place) (greedy : Bool) (fuel : Nat) (rounds : Rounds)
    (place : Place) :
    Rounds.begin body greedy (fuel + 1) rounds place =
      if rounds.begun.contains place.offset then rounds
      else
        (body place).foldl (Rounds.atEnd body greedy fuel)
          { rounds with begun := place.offset :: rounds.begun } := rfl

/-- At the end of a round the repetition goes on and stops, in an order that does not matter here. -/
theorem Rounds.atEnd_follows {greedy : Bool} {fuel : Nat} {reached : Place}
    (goesOn : ∀ state : Rounds, state.begun = rounds.begun →
      state.Grows step (Rounds.begin body greedy fuel state reached) ∧
        reached.offset ∈ (Rounds.begin body greedy fuel state reached).begun) :
    rounds.Grows step (Rounds.atEnd body greedy fuel rounds reached) ∧
      reached.offset ∈ (Rounds.atEnd body greedy fuel rounds reached).ended := by
  rw [Rounds.atEnd]
  split
  next known => exact ⟨.refl rounds, List.contains_iff_mem.mp known⟩
  next =>
    split
    · obtain ⟨grows, begun⟩ := goesOn { rounds with ended := reached.offset :: rounds.ended } rfl
      have stops := grows.trans (.stop _ reached)
      exact ⟨stops.end begun (.head _), stops.keepsEnded _ (.head _)⟩
    · obtain ⟨grows, begun⟩ := goesOn
        { rounds with ended := reached.offset :: rounds.ended, stops := reached :: rounds.stops } rfl
      have stops := (Rounds.Grows.stop { rounds with ended := reached.offset :: rounds.ended } reached).trans grows
      exact ⟨stops.end begun (grows.keepsStops _ (.head _)), stops.keepsEnded _ (.head _)⟩

private theorem Rounds.begin_follows (precise : Exact input step body) (greedy : Bool) {fuel : Nat} {rounds : Rounds}
    {place : Place} (lies : place.Lies input) (enough : place.rest.length < fuel) :
    rounds.Grows step (Rounds.begin body greedy fuel rounds place) ∧
      place.offset ∈ (Rounds.begin body greedy fuel rounds place).begun := by
  induction fuel generalizing rounds place with
  | zero => contradiction
  | succ fuel ih =>
    rw [Rounds.begin_succ]
    split
    next begun => exact ⟨.refl rounds, List.contains_iff_mem.mp begun⟩
    next =>
      -- a round from the same offset was begun already, and any other has less of the input left
      have goesOn (state : Rounds) (here : place.offset ∈ state.begun) (reached : Place)
          (member : reached ∈ body place) :
          state.Grows step (Rounds.begin body greedy fuel state reached) ∧
            reached.offset ∈ (Rounds.begin body greedy fuel state reached).begun := by
        have within := precise.lie place lies reached member
        have onward := precise.onward _ _ ((precise.ends place lies _).mp (List.mem_map_of_mem member))
        rcases Nat.eq_or_lt_of_le onward with same | further
        · rw [Rounds.begin_begun greedy fuel (same ▸ here)]
          exact ⟨.refl state, same ▸ here⟩
        · refine ih within ?_
          rw [lies.room] at enough
          rw [within.room]
          have inside := within.inside
          omega
      obtain ⟨grows, ended⟩ := Rounds.foldl_follows (fun grows => grows.keepsEnded)
        (Rounds.atEnd body greedy fuel) { rounds with begun := place.offset :: rounds.begun } (body place)
        fun state grown reached member => Rounds.atEnd_follows fun next same =>
          goesOn next (same ▸ grown.keepsBegun _ (.head _)) reached member
      refine ⟨grows.begin fun next steps => ?_, grows.keepsBegun _ (.head _)⟩
      exact ended next ((precise.ends place lies next).mpr steps)

/-- From where a round was begun, all ends of rounds are stops. -/
theorem Rounds.Grows.reaches {rounds : Rounds} (grows : Rounds.Grows step {} rounds) {count first last : Nat}
    (begun : first ∈ rounds.begun) (steps : Steps step (count + 1) first last) :
    last ∈ offsets rounds.stops := by
  induction count generalizing first with
  | zero =>
    obtain ⟨_, here, rfl⟩ := steps
    have ended := (grows.begun first begun).resolve_left (by simp) _ here
    exact ((grows.ended _ ended).resolve_left (by simp)).2
  | succ count ih =>
    obtain ⟨next, here, steps⟩ := steps
    have ended := (grows.begun first begun).resolve_left (by simp) next here
    exact ih ((grows.ended next ended).resolve_left (by simp)).1 steps

/-- Whether a place can be come to by a number of steps from one of the starts. -/
def Reached (input : List Char) (step : Nat → Nat → Prop) (starts : List Place) (count : Nat) (place : Place) :
    Prop :=
  place.Lies input ∧ ∃ first ∈ offsets starts, Steps step count first place.offset

variable (precise : Exact input step body)
include precise

private theorem Reached.next {starts : List Place} {count : Nat} {place reached : Place}
    (here : Reached input step starts count place) (member : reached ∈ body place) :
    Reached input step starts (count + 1) reached := by
  obtain ⟨lies, first, start, steps⟩ := here
  have ends := (precise.ends place lies _).mp (List.mem_map_of_mem member)
  exact ⟨precise.lie place lies reached member, first, start, steps.trans (.single ends)⟩

private theorem mem_offsets_oneOrMore (greedy : Bool) {starts : List Place} (lie : ∀ place ∈ starts, place.Lies input)
    {offset : Nat} :
    offset ∈ offsets (oneOrMore body greedy starts) ↔
      ∃ first ∈ offsets starts, ∃ count, Steps step (count + 1) first offset := by
  constructor
  · intro member
    obtain ⟨stop, found, rfl⟩ := mem_offsets.mp member
    have closed (place : Place) (here : ∃ count, Reached input step starts count place) (reached : Place)
        (member : reached ∈ body place) :
        (∃ count, Reached input step starts count reached) ∧
          ∃ count, Reached input step starts (count + 1) reached := by
      obtain ⟨count, here⟩ := here
      have next := Reached.next precise here member
      exact ⟨⟨_, next⟩, _, next⟩
    obtain ⟨count, -, first, start, steps⟩ := oneOrMore_ends closed greedy
      (fun place member => ⟨0, lie place member, _, List.mem_map_of_mem member, rfl⟩) stop found
    exact ⟨first, start, count, steps⟩
  · rintro ⟨first, start, count, steps⟩
    rw [oneOrMore, mem_offsets_distinct, mem_offsets_reverse]
    obtain ⟨grows, begun⟩ := Rounds.foldl_follows (fun grows => grows.keepsBegun)
      (fun rounds place => Rounds.begin body greedy (place.rest.length + 2) rounds place) {} starts
      fun state _ place member => Rounds.begin_follows precise greedy (lie place member) (by omega)
    exact grows.reaches (begun first start) steps

private theorem mem_offsets_zeroOrMore (greedy : Bool) {starts : List Place} (lie : ∀ place ∈ starts, place.Lies input)
    {offset : Nat} :
    offset ∈ offsets (zeroOrMore body greedy starts) ↔
      ∃ first ∈ offsets starts, ∃ count, Steps step count first offset := by
  constructor
  · intro member
    obtain ⟨stop, found, rfl⟩ := mem_offsets.mp member
    have closed (place : Place) (here : ∃ count, Reached input step starts count place) (reached : Place)
        (member : reached ∈ body place) : ∃ count, Reached input step starts count reached := by
      obtain ⟨count, here⟩ := here
      exact ⟨_, Reached.next precise here member⟩
    obtain ⟨count, -, first, start, steps⟩ := zeroOrMore_all closed greedy
      (fun place member => ⟨0, lie place member, _, List.mem_map_of_mem member, rfl⟩) stop found
    exact ⟨first, start, count, steps⟩
  · rintro ⟨first, start, count, steps⟩
    rw [zeroOrMore, mem_offsets_distinct, mem_offsets_reverse]
    generalize visited : (fun (rounds : Rounds) (place : Place) => _) = visit
    have follows (state : Rounds) (place : Place) (member : place ∈ starts) :
        state.Grows step (visit state place) ∧ place.offset ∈ (visit state place).begun ∧
          place.offset ∈ offsets (visit state place).stops := by
      have begins (state : Rounds) :
          state.Grows step (Rounds.begin body greedy (place.rest.length + 2) state place) ∧
            place.offset ∈ (Rounds.begin body greedy (place.rest.length + 2) state place).begun :=
        Rounds.begin_follows precise greedy (lie place member) (by omega)
      rw [← visited]
      dsimp only
      split
      · obtain ⟨grows, begun⟩ := begins state
        exact ⟨grows.trans (.stop _ place), begun, .head _⟩
      · obtain ⟨grows, begun⟩ := begins { state with stops := place :: state.stops }
        exact ⟨(Rounds.Grows.stop state place).trans grows, begun, grows.keepsStops _ (.head _)⟩
    cases count with
    | zero =>
      cases steps
      exact (Rounds.foldl_follows (fun grows => grows.keepsStops) visit {} starts
        fun state _ place member => ⟨(follows state place member).1, (follows state place member).2.2⟩).2 _ start
    | succ count =>
      obtain ⟨grows, begun⟩ := Rounds.foldl_follows (fun grows => grows.keepsBegun) visit {} starts
        fun state _ place member => ⟨(follows state place member).1, (follows state place member).2.1⟩
      exact grows.reaches (begun first start) steps

omit precise

/-- What was entered between two states of a bounded repetition is followed up: each visit has a stop, and if a
round is left, every step from it leads to a visit. -/
structure Visits.Grows (step : Nat → Nat → Prop) (visits after : Visits) : Prop where
  keepsSeen : ∀ visit ∈ visits.seen, visit ∈ after.seen
  keepsStops : ∀ offset ∈ offsets visits.stops, offset ∈ offsets after.stops
  seen : ∀ visit ∈ after.seen, visit ∈ visits.seen ∨
    visit.2 ∈ offsets after.stops ∧
      ∀ left, visit.1 = left + 1 → ∀ next, step visit.2 next → (left, next) ∈ after.seen

theorem Visits.Grows.refl (visits : Visits) : visits.Grows step visits :=
  ⟨fun _ => id, fun _ => id, fun _ => .inl⟩

theorem Visits.Grows.trans {visits middle after : Visits} (first : visits.Grows step middle)
    (second : middle.Grows step after) : visits.Grows step after where
  keepsSeen visit member := second.keepsSeen visit (first.keepsSeen visit member)
  keepsStops offset member := second.keepsStops offset (first.keepsStops offset member)
  seen visit member := by
    rcases second.seen visit member with before | followed
    · refine (first.seen visit before).imp_right fun ⟨stopped, followed⟩ => ?_
      exact ⟨second.keepsStops _ stopped, fun left more next steps =>
        second.keepsSeen _ (followed left more next steps)⟩
    · exact .inr followed

private theorem Visits.Grows.stop (visits : Visits) (place : Place) :
    visits.Grows step { visits with stops := place :: visits.stops } :=
  ⟨fun _ => id, fun _ => .tail _, fun _ => .inl⟩

private theorem Visits.Grows.enter {visits after : Visits} {visit : Nat × Nat}
    (grows : Visits.Grows step { visits with seen := visit :: visits.seen } after)
    (stopped : visit.2 ∈ offsets after.stops)
    (followed : ∀ left, visit.1 = left + 1 → ∀ next, step visit.2 next → (left, next) ∈ after.seen) :
    visits.Grows step after where
  keepsSeen other member := grows.keepsSeen other (.tail _ member)
  keepsStops := grows.keepsStops
  seen other member := by
    rcases grows.seen other member with before | done
    · rcases List.mem_cons.mp before with rfl | before
      · exact .inr ⟨stopped, followed⟩
      · exact .inl before
    · exact .inr done

private theorem Visits.foldl_follows {left : Nat} (visit : Visits → Place → Visits) (places : List Place)
    (follows : ∀ state : Visits, ∀ place ∈ places,
      state.Grows step (visit state place) ∧ (left, place.offset) ∈ (visit state place).seen) (base : Visits) :
    base.Grows step (places.foldl visit base) ∧
      ∀ offset ∈ offsets places, (left, offset) ∈ (places.foldl visit base).seen := by
  induction places generalizing base with
  | nil => exact ⟨.refl base, by simp [offsets]⟩
  | cons first rest ih =>
    obtain ⟨grows, marked⟩ := follows base first (.head _)
    obtain ⟨later, others⟩ := ih (fun state place member => follows state place (.tail _ member)) (visit base first)
    refine ⟨grows.trans later, ?_⟩
    exact List.forall_mem_cons.mpr ⟨later.keepsSeen _ marked, others⟩

include precise

private theorem Visits.visit_follows (greedy : Bool) (left : Nat) {place : Place} (lies : place.Lies input)
    (visits : Visits) :
    visits.Grows step (Visits.visit body greedy left visits place) ∧
      (left, place.offset) ∈ (Visits.visit body greedy left visits place).seen := by
  induction left generalizing visits place with
  | zero =>
    rw [Visits.visit]
    split
    next known => exact ⟨.refl visits, List.contains_iff_mem.mp known⟩
    next =>
      have stop : Visits.Grows step { visits with seen := (0, place.offset) :: visits.seen } _ := .stop _ place
      exact ⟨stop.enter (.head _) (by simp), .head _⟩
  | succ left ih =>
    rw [Visits.visit]
    split
    next known => exact ⟨.refl visits, List.contains_iff_mem.mp known⟩
    next =>
      have goesOn := Visits.foldl_follows (Visits.visit body greedy left) (body place)
        fun state reached member => ih (precise.lie place lies reached member) state
      have followed {after : Visits} (seen : ∀ offset ∈ offsets (body place), (left, offset) ∈ after.seen) :
          ∀ less, left + 1 = less + 1 → ∀ next, step place.offset next → (less, next) ∈ after.seen := by
        rintro less same next steps
        cases same
        exact seen next ((precise.ends place lies next).mpr steps)
      dsimp only
      split
      · obtain ⟨grows, seen⟩ := goesOn { visits with seen := (left + 1, place.offset) :: visits.seen }
        have stop := grows.trans (.stop _ place)
        exact ⟨stop.enter (.head _) (followed seen), stop.keepsSeen _ (.head _)⟩
      · obtain ⟨grows, seen⟩ := goesOn
          { seen := (left + 1, place.offset) :: visits.seen, stops := place :: visits.stops }
        have stop :=
          (Visits.Grows.stop { visits with seen := (left + 1, place.offset) :: visits.seen } place).trans grows
        exact ⟨stop.enter (grows.keepsStops _ (.head _)) (followed seen), stop.keepsSeen _ (.head _)⟩

omit precise

private theorem Visits.Grows.reaches {visits : Visits} (grows : Visits.Grows step {} visits) {count left first last : Nat}
    (seen : (left, first) ∈ visits.seen) (enough : count ≤ left) (steps : Steps step count first last) :
    last ∈ offsets visits.stops := by
  obtain ⟨stopped, followed⟩ := (grows.seen _ seen).resolve_left (by simp)
  induction count generalizing left first with
  | zero =>
    cases steps
    exact stopped
  | succ count ih =>
    obtain ⟨next, here, steps⟩ := steps
    obtain ⟨left, rfl⟩ : ∃ less, left = less + 1 := ⟨left - 1, by omega⟩
    have later := followed left rfl next here
    obtain ⟨stopped, followed⟩ := (grows.seen _ later).resolve_left (by simp)
    exact ih later (by omega) steps stopped followed

include precise

private theorem mem_offsets_atMost (greedy : Bool) (left : Nat) {starts : List Place}
    (lie : ∀ place ∈ starts, place.Lies input) {offset : Nat} :
    offset ∈ offsets (atMost body greedy left starts) ↔
      ∃ first ∈ offsets starts, ∃ count ≤ left, Steps step count first offset := by
  constructor
  · intro member
    obtain ⟨stop, found, rfl⟩ := mem_offsets.mp member
    let visited (less : Nat) (place : Place) : Prop :=
      ∃ count, count + less = left ∧ Reached input step starts count place
    have closed (less : Nat) (place : Place) (here : visited (less + 1) place) (reached : Place)
        (member : reached ∈ body place) : visited less reached := by
      obtain ⟨count, same, here⟩ := here
      exact ⟨count + 1, by omega, Reached.next precise here member⟩
    have begun (place : Place) (member : place ∈ starts) : visited left place :=
      ⟨0, Nat.zero_add left, lie place member, _, List.mem_map_of_mem member, rfl⟩
    obtain ⟨less, count, same, -, first, start, steps⟩ :=
      atMost_ends visited (fun place => ∃ less, visited less place) closed (fun less _ here => ⟨less, here⟩) greedy
        left begun stop found
    exact ⟨first, start, count, by omega, steps⟩
  · rintro ⟨first, start, count, enough, steps⟩
    rw [atMost, mem_offsets_distinct, mem_offsets_reverse]
    obtain ⟨grows, seen⟩ :=
      Visits.foldl_follows (fun visits place => Visits.visit body greedy left visits place) starts
        (fun state place member => Visits.visit_follows precise greedy left (lie place member) state) {}
    exact grows.reaches (seen first start) enough steps

end Repetition

private theorem mem_offsets_times {step : Nat → Nat → Prop} {stops : List Place → List Place}
    (lie : ∀ places : List Place, (∀ place ∈ places, place.Lies input) →
      ∀ stop ∈ stops places, stop.Lies input)
    (ends : ∀ places : List Place, (∀ place ∈ places, place.Lies input) → ∀ offset,
      offset ∈ offsets (stops places) ↔ ∃ first ∈ offsets places, step first offset)
    (count : Nat) {starts : List Place} (inside : ∀ place ∈ starts, place.Lies input) {offset : Nat} :
    offset ∈ offsets (times stops count starts) ↔ ∃ first ∈ offsets starts, Steps step count first offset := by
  induction count generalizing starts with
  | zero => simp [times, Steps]
  | succ count ih =>
    rw [times, ih (lie starts inside)]
    constructor
    · rintro ⟨next, reached, steps⟩
      obtain ⟨first, start, here⟩ := (ends starts inside next).mp reached
      exact ⟨first, start, next, here, steps⟩
    · rintro ⟨first, start, next, here, steps⟩
      exact ⟨next, (ends starts inside next).mpr ⟨first, start, here⟩, steps⟩

private theorem Spans.onward {regex : Regex} {first last : Nat} (spans : regex.Spans input first last) : first ≤ last := by
  induction regex generalizing first last with
  | empty => exact Nat.le_of_eq spans.symm
  | chars set =>
    obtain ⟨-, -, -, rfl⟩ := spans
    exact Nat.le_succ first
  | look kind => exact Nat.le_of_eq spans.1.symm
  | concat left right before after =>
    obtain ⟨next, here, later⟩ := spans
    exact Nat.le_trans (before here) (after later)
  | alternate left right one other => exact spans.elim one other
  | repeated inner least most greedy ih =>
    obtain ⟨count, -, -, steps⟩ := spans
    exact Steps.onward (fun _ _ => ih) steps
  | group index name inner ih => exact ih spans

private theorem spans_repeated {inner : Regex} {least : Nat} {most : Option Nat} {greedy : Bool} {first last : Nat} :
    (Regex.repeated inner least most greedy).Spans input first last ↔
      ∃ count, (∀ bound ∈ most, count ≤ bound - least) ∧
        Steps (inner.Spans input) (least + count) first last := by
  constructor
  · rintro ⟨count, enough, bounded, steps⟩
    refine ⟨count - least, ?_, by rwa [Nat.add_sub_cancel' enough]⟩
    intro bound member
    have low := bounded bound member
    omega
  · rintro ⟨count, bounded, steps⟩
    refine ⟨least + count, Nat.le_add_right _ _, ?_, steps⟩
    intro bound member
    have low := bounded bound member
    omega

private theorem mem_offsets_repeated {inner : Regex}
    (ends : ∀ places : List Place, (∀ place ∈ places, place.Lies input) → ∀ offset,
      offset ∈ offsets (inner.stops places) ↔ ∃ first ∈ offsets places, inner.Spans input first offset)
    (least : Nat) (most : Option Nat) (greedy : Bool) {starts : List Place}
    (lie : ∀ place ∈ starts, place.Lies input) {offset : Nat} :
    offset ∈ offsets ((Regex.repeated inner least most greedy).stops starts) ↔
      ∃ first ∈ offsets starts, (Regex.repeated inner least most greedy).Spans input first offset := by
  have alone (place : Place) (here : place.Lies input) : ∀ only ∈ [place], only.Lies input := by
    simpa using here
  have precise : Exact input (inner.Spans input) fun place => inner.stops [place] := by
    refine ⟨fun place here => stops_lie inner (alone place here), fun place here offset => ?_,
      fun _ _ => Spans.onward⟩
    rw [ends _ (alone place here)]
    simp [offsets]
  have counted (count next : Nat) : next ∈ offsets (times inner.stops count starts) ↔
      ∃ first ∈ offsets starts, Steps (inner.Spans input) count first next :=
    mem_offsets_times (fun _ => stops_lie inner) ends count lie
  have further (count : Nat) : ∀ place ∈ times inner.stops count starts, place.Lies input :=
    times_all (fun _ => stops_lie inner) count lie
  simp only [spans_repeated]
  rw [stops.eq_def]
  dsimp only
  split
  · split
    · rw [mem_offsets_zeroOrMore precise greedy lie]
      simp
    next least =>
      rw [mem_offsets_oneOrMore precise greedy (further least)]
      constructor
      · rintro ⟨next, reached, count, steps⟩
        obtain ⟨first, start, before⟩ := (counted least next).mp reached
        refine ⟨first, start, count, by simp, ?_⟩
        rw [Nat.succ_add_eq_add_succ]
        exact before.trans steps
      · rintro ⟨first, start, count, -, steps⟩
        rw [Nat.succ_add_eq_add_succ] at steps
        obtain ⟨next, before, after⟩ := steps.split
        exact ⟨next, (counted least next).mpr ⟨first, start, before⟩, count, after⟩
  next bound =>
    rw [mem_offsets_atMost precise greedy _ (further least)]
    constructor
    · rintro ⟨next, reached, count, bounded, steps⟩
      obtain ⟨first, start, before⟩ := (counted least next).mp reached
      exact ⟨first, start, count, by simpa using bounded, before.trans steps⟩
    · rintro ⟨first, start, count, bounded, steps⟩
      obtain ⟨next, before, after⟩ := steps.split
      exact ⟨next, (counted least next).mpr ⟨first, start, before⟩, count, by simpa using bounded, after⟩

/-- The stops of an expression are the ends of what it takes from its starts. -/
theorem mem_offsets_stops (regex : Regex) {starts : List Place} (lie : ∀ place ∈ starts, place.Lies input)
    {offset : Nat} :
    offset ∈ offsets (regex.stops starts) ↔ ∃ first ∈ offsets starts, regex.Spans input first offset := by
  induction regex generalizing starts offset with
  | empty => simp [stops, Spans]
  | chars set =>
    simp only [stops, mem_offsets, List.mem_filterMap]
    constructor
    · rintro ⟨stop, ⟨place, start, stepped⟩, rfl⟩
      obtain ⟨char, rest, found, contains, rfl⟩ := Place.step?_eq_some stepped
      have here : input[place.offset]? = some char := by
        rw [← (lie place start).head?, found, List.head?_cons]
      exact ⟨_, ⟨place, start, rfl⟩, char, here, contains, rfl⟩
    · rintro ⟨_, ⟨place, start, rfl⟩, char, here, contains, rfl⟩
      rw [← (lie place start).head?] at here
      obtain ⟨rest, found⟩ := List.head?_eq_some_iff.mp here
      have stepped : place.step? set =
          some { place with offset := place.offset + 1, previous := some char, rest } := by
        rw [Place.step?, found]
        exact if_pos contains
      exact ⟨_, ⟨place, start, stepped⟩, rfl⟩
  | look kind =>
    simp only [stops, mem_offsets, List.mem_filter]
    constructor
    · rintro ⟨place, ⟨start, holds⟩, rfl⟩
      rw [(lie place start).head?, (lie place start).previous] at holds
      exact ⟨_, ⟨place, start, rfl⟩, rfl, holds⟩
    · rintro ⟨_, ⟨place, start, rfl⟩, rfl, holds⟩
      rw [← (lie place start).head?, ← (lie place start).previous] at holds
      exact ⟨place, ⟨start, holds⟩, rfl⟩
  | concat left right before after =>
    rw [stops, after (stops_lie left lie)]
    constructor
    · rintro ⟨next, reached, later⟩
      obtain ⟨first, start, here⟩ := (before lie).mp reached
      exact ⟨first, start, next, here, later⟩
    · rintro ⟨first, start, next, here, later⟩
      exact ⟨next, (before lie).mpr ⟨first, start, here⟩, later⟩
  | alternate left right one other =>
    have single (place : Place) : offsets [place] = [place.offset] := rfl
    have each (place : Place) (start : place ∈ starts) :
        offset ∈ offsets (left.stops [place] ++ right.stops [place]) ↔
          (left.alternate right).Spans input place.offset offset := by
      have alone : ∀ only ∈ [place], only.Lies input := by simpa using lie place start
      rw [offsets, List.map_append, List.mem_append, ← offsets, ← offsets, one alone, other alone]
      simp only [single, List.mem_singleton, exists_eq_left, Spans]
    rw [stops, mem_offsets_distinct, offsets, List.map_flatMap, List.mem_flatMap]
    constructor
    · rintro ⟨place, start, reached⟩
      exact ⟨_, List.mem_map_of_mem start, (each place start).mp reached⟩
    · rintro ⟨first, member, spans⟩
      obtain ⟨place, start, rfl⟩ := mem_offsets.mp member
      exact ⟨place, start, (each place start).mpr spans⟩
  | repeated inner least most greedy ih =>
    exact mem_offsets_repeated (fun _ lie _ => ih lie) least most greedy lie
  | group index name inner ih =>
    have opened : ∀ place ∈ starts.map Place.open, place.Lies input :=
      List.forall_mem_map.mpr fun place start =>
        ⟨(lie place start).rest, (lie place start).previous, (lie place start).inside⟩
    have same : Place.offset ∘ Place.close index = Place.offset := funext (Place.close_offset index)
    rw [stops, offsets, List.map_map, same]
    refine (ih opened).trans ?_
    rw [offsets, List.map_map]
    rfl

/-- Whether an expression has no condition on places in it. -/
def lookFree : Regex → Bool
  | .empty | .chars _ => true
  | .look _ => false
  | .concat left right | .alternate left right => left.lookFree && right.lookFree
  | .repeated inner _ _ _ | .group _ _ inner => inner.lookFree

/-- Without conditions on places it does not matter what stands around the text that is taken. -/
theorem Spans.shift {regex : Regex} (free : regex.lookFree = true) {other : List Char} {start place count : Nat}
    (same : ∀ offset < count, other[place + offset]? = input[start + offset]?) {first last : Nat}
    (inside : last ≤ count) (spans : regex.Spans input (start + first) (start + last)) :
    regex.Spans other (place + first) (place + last) := by
  induction regex generalizing first last with
  | empty =>
    have ended : last = first := Nat.add_left_cancel spans
    exact congrArg (place + ·) ended
  | chars set =>
    obtain ⟨char, here, contains, ended⟩ := spans
    obtain rfl : last = first + 1 := by omega
    exact ⟨char, (same first inside).trans here, contains, rfl⟩
  | look kind => contradiction
  | concat left right before after =>
    obtain ⟨lefts, rights⟩ := Bool.and_eq_true_iff.mp free
    obtain ⟨next, here, later⟩ := spans
    obtain ⟨middle, rfl⟩ : ∃ middle, next = start + middle := ⟨next - start, by have := here.onward; omega⟩
    have onward := later.onward
    exact ⟨place + middle, before lefts (by omega) here, after rights inside later⟩
  | alternate left right one other =>
    obtain ⟨lefts, rights⟩ := Bool.and_eq_true_iff.mp free
    exact spans.imp (one lefts inside) (other rights inside)
  | repeated inner least most greedy ih =>
    obtain ⟨rounds, enough, bounded, steps⟩ := spans
    refine ⟨rounds, enough, bounded, ?_⟩
    clear enough bounded
    induction rounds generalizing first with
    | zero =>
      have ended : first = last := Nat.add_left_cancel steps
      exact congrArg (place + ·) ended
    | succ rounds each =>
      obtain ⟨next, here, steps⟩ := steps
      obtain ⟨middle, rfl⟩ : ∃ middle, next = start + middle := ⟨next - start, by have := here.onward; omega⟩
      have onward := Steps.onward (fun _ _ => Spans.onward) steps
      exact ⟨place + middle, ih free (by omega) here, each steps⟩
  | group index name inner ih => exact ih free inside spans

end TextScenario.Regex
