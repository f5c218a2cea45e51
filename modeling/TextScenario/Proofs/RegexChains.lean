import Mathlib.Data.List.Infix
import TextScenario.Proofs.RegexPlaces

/-! Repetitions of one set of characters. From one start they stop after each text of members; from
several starts the rounds that were begun before are left out, and what comes after the repetition
first succeeds at the same stop as if they were not. -/

namespace TextScenario.Regex

def Place.after (place : Place) (text : List Char) : Place :=
  { place with
    offset := place.offset + text.length
    previous := text.getLast?.or place.previous
    rest := place.rest.drop text.length }

/-- The places after one or more members of the set, nearest first. -/
def chain (set : CharSet) (place : Place) : List Place :=
  ((place.rest.takeWhile set.contains).inits.tail).map place.after

theorem Place.after_nil (place : Place) : place.after [] = place := by
  simp [Place.after]

theorem Place.after_cons {place : Place} {char : Char} {rest : List Char}
    (found : place.rest = char :: rest) (text : List Char) :
    place.after (char :: text) =
      Place.after { place with offset := place.offset + 1, previous := some char, rest } text := by
  have last : (char :: text).getLast?.or place.previous = text.getLast?.or (some char) := by
    rw [List.getLast?_cons]
    cases text.getLast? <;> rfl
  simp only [Place.after, last, found, List.length_cons, List.drop_succ_cons, Place.mk.injEq, and_true]
  omega

theorem Place.Of.after {input : List Char} {place : Place} (inside : place.Of input)
    (text : List Char) : (place.after text).Of input := by
  rw [Place.Of, Place.after, inside, List.drop_drop]

theorem inits_eq_cons (text : List Char) : text.inits = [] :: text.inits.tail := by
  cases text with
  | nil => rfl
  | cons char rest => rw [List.inits_cons, List.tail_cons]

theorem chain_eq (set : CharSet) (place : Place) :
    chain set place =
      match place.step? set with
      | none => []
      | some next => next :: chain set next := by
  rw [chain, Place.step?]
  generalize found : place.rest = text
  cases text with
  | nil => rfl
  | cons char rest =>
    dsimp only
    rw [List.takeWhile_cons]
    split
    · dsimp only
      rw [List.inits_cons, List.tail_cons, List.map_map, inits_eq_cons, List.map_cons, chain]
      simp only [Function.comp_def, Place.after_cons found, Place.after_nil]
    · rfl

section Repetition

variable {γ : Type} {input : List Char} {goal : Place → Option γ} {set : CharSet}

/-- From this offset the goal cannot be reached. -/
def Fails (input : List Char) (goal : Place → Option γ) (offset : Nat) : Prop :=
  ∀ place : Place, place.Of input → place.offset = offset → goal place = none

/-- After one or more members of the set from this offset the goal cannot be reached. -/
def FailsPast (input : List Char) (goal : Place → Option γ) (set : CharSet) (offset : Nat) : Prop :=
  ∀ place : Place, place.Of input → place.offset = offset → ∀ next ∈ chain set place, goal next = none

private theorem Uniform.fails (uniform : Uniform input goal) {place : Place} (inside : place.Of input)
    (failed : goal place = none) : Fails input goal place.offset :=
  fun other within same => uniform place other inside within same.symm failed

private theorem Uniform.failsPast (uniform : Uniform input goal) {place : Place} (inside : place.Of input)
    (failed : ∀ next ∈ chain set place, goal next = none) :
    FailsPast input goal set place.offset := by
  intro other within same next member
  have rest : other.rest = place.rest := by rw [within, inside, same]
  rw [chain, rest] at member
  obtain ⟨text, taken, rfl⟩ := List.mem_map.mp member
  refine uniform (place.after text) _ (inside.after text) (within.after text) ?_
    (failed _ (List.mem_map_of_mem taken))
  rw [Place.after, Place.after, same]

/-- Offsets that were dealt with in vain: those at which a round was begun, and those at which one
was ended. -/
structure Rounds.Exhausted (input : List Char) (goal : Place → Option γ) (set : CharSet) (least : Nat)
    (rounds : Rounds) : Prop where
  begun : ∀ offset ∈ rounds.begun, least ≤ offset → FailsPast input goal set offset
  ended : ∀ offset ∈ rounds.ended, least < offset →
    Fails input goal offset ∧ FailsPast input goal set offset

/-- Stops in the order of the repetition, which begins with the nearest one unless it is greedy. -/
def inOrder (greedy : Bool) (nearestFirst : List Place) : List Place :=
  if greedy then nearestFirst.reverse else nearestFirst

theorem inOrder_cons (greedy : Bool) (first : Place) (rest : List Place) :
    inOrder greedy (first :: rest) =
      if greedy then inOrder greedy rest ++ [first] else first :: inOrder greedy rest := by
  cases greedy
  · rfl
  · exact List.reverse_cons

private theorem inOrder_findSome?_eq_none {greedy : Bool} {places : List Place} :
    (inOrder greedy places).findSome? goal = none ↔ ∀ place ∈ places, goal place = none := by
  rw [List.findSome?_eq_none_iff, inOrder]
  split
  · simp only [List.mem_reverse]
  · rfl

private theorem FailsPast.chain {place : Place} (failed : FailsPast input goal set place.offset)
    (inside : place.Of input) (greedy : Bool) :
    (inOrder greedy (chain set place)).findSome? goal = none :=
  inOrder_findSome?_eq_none.mpr (failed place inside rfl)

/-- What beginning a round adds to the stops: as far as the goal goes, all of the chain. -/
def Rounds.Adds (input : List Char) (goal : Place → Option γ) (set : CharSet) (rounds after : Rounds)
    (places : List Place) : Prop :=
  ∃ added, after.stops = added ++ rounds.stops ∧
    added.reverse.findSome? goal = places.findSome? goal ∧
    (places.findSome? goal = none →
      (∀ offset ∈ after.begun, offset ∈ rounds.begun ∨ FailsPast input goal set offset) ∧
      (∀ offset ∈ after.ended, offset ∈ rounds.ended ∨
        Fails input goal offset ∧ FailsPast input goal set offset))

/-- A round that goes on from a place and the one after it deals with places that lie behind these. -/
theorem Rounds.Exhausted.further {rounds : Rounds} {offset : Nat}
    (exhausted : rounds.Exhausted input goal set offset) (stops : List Place) :
    Rounds.Exhausted input goal set (offset + 1)
      { begun := offset :: rounds.begun, ended := (offset + 1) :: rounds.ended, stops } where
  begun := List.forall_mem_cons.mpr ⟨fun later => by omega, fun other member later =>
    exhausted.begun other member (by omega)⟩
  ended := List.forall_mem_cons.mpr ⟨fun later => by omega, fun other member later =>
    exhausted.ended other member (by omega)⟩

/-- Offsets that were entered before a round count as dealt with if the round comes to nothing. -/
theorem Rounds.Adds.rebase {rounds after : Rounds} {offset : Nat} {places : List Place}
    (adds : Rounds.Adds input goal set
      { rounds with begun := offset :: rounds.begun, ended := (offset + 1) :: rounds.ended } after places)
    (failed : places.findSome? goal = none → FailsPast input goal set offset ∧
      Fails input goal (offset + 1) ∧ FailsPast input goal set (offset + 1)) :
    rounds.Adds input goal set after places := by
  obtain ⟨added, stops, same, closed⟩ := adds
  refine ⟨added, stops, same, ?_⟩
  intro none
  obtain ⟨begun, ended⟩ := closed none
  obtain ⟨past, next⟩ := failed none
  constructor
  · intro other member
    rcases begun other member with member | failed
    · rcases List.mem_cons.mp member with rfl | member
      · exact .inr past
      · exact .inl member
    · exact .inr failed
  · intro other member
    rcases ended other member with member | failed
    · rcases List.mem_cons.mp member with rfl | member
      · exact .inr next
      · exact .inl member
    · exact .inr failed

private theorem Rounds.Adds.stopAfter {rounds after : Rounds} {places : List Place}
    (adds : rounds.Adds input goal set after (inOrder true places)) (place : Place) :
    rounds.Adds input goal set { after with stops := place :: after.stops }
      (inOrder true (place :: places)) := by
  obtain ⟨added, stops, same, closed⟩ := adds
  refine ⟨place :: added, congrArg (place :: ·) stops, ?_, ?_⟩
  · rw [List.reverse_cons, inOrder_cons, if_pos rfl, List.findSome?_append, List.findSome?_append, same]
  · intro none
    have later := (List.forall_mem_cons.mp (inOrder_findSome?_eq_none.mp none)).2
    exact closed (inOrder_findSome?_eq_none.mpr later)

private theorem Rounds.Adds.stopBefore {rounds after : Rounds} {places : List Place} {place : Place}
    (adds : Rounds.Adds input goal set { rounds with stops := place :: rounds.stops } after
      (inOrder false places)) :
    rounds.Adds input goal set after (inOrder false (place :: places)) := by
  obtain ⟨added, stops, same, closed⟩ := adds
  refine ⟨added ++ [place], ?_, ?_, ?_⟩
  · rw [stops, List.append_assoc, List.singleton_append]
  · rw [List.reverse_append, inOrder_cons, if_neg Bool.false_ne_true, List.findSome?_append, same,
      List.reverse_singleton, List.findSome?_singleton, List.findSome?_cons]
    cases goal place <;> rfl
  · intro none
    have later := (List.forall_mem_cons.mp (inOrder_findSome?_eq_none.mp none)).2
    exact closed (inOrder_findSome?_eq_none.mpr later)

private theorem Rounds.begin_adds (uniform : Uniform input goal) (greedy : Bool) {fuel : Nat} {rounds : Rounds}
    {place : Place} (inside : place.Of input) (enough : place.rest.length < fuel)
    (exhausted : rounds.Exhausted input goal set place.offset) :
    rounds.Adds input goal set
      (Rounds.begin (fun place => (place.step? set).toList) greedy fuel rounds place)
      (inOrder greedy (chain set place)) := by
  induction fuel generalizing rounds place with
  | zero => contradiction
  | succ fuel ih =>
    rw [Rounds.begin]
    split
    next begun =>
      -- an earlier round went along this chain, in vain
      have failed := exhausted.begun _ (List.contains_iff_mem.mp begun) (Nat.le_refl _)
      exact ⟨[], rfl, (failed.chain inside greedy).symm, fun _ => ⟨fun _ => .inl, fun _ => .inl⟩⟩
    next =>
      have past (none : (inOrder greedy (chain set place)).findSome? goal = none) :
          FailsPast input goal set place.offset :=
        uniform.failsPast inside (inOrder_findSome?_eq_none.mp none)
      cases stepped : place.step? set with
      | none =>
        have ended : chain set place = [] := by rw [chain_eq, stepped]
        refine ⟨[], rfl, ?_, fun none => ⟨?_, fun _ => .inl⟩⟩
        · rw [ended]
          cases greedy <;> rfl
        · exact List.forall_mem_cons.mpr ⟨.inr (past none), fun _ => .inl⟩
      | some next =>
        have goesOn : chain set place = next :: chain set next := by rw [chain_eq, stepped]
        have within := inside.step? stepped
        obtain ⟨char, rest, found, -, made⟩ := Place.step?_eq_some stepped
        have further : next.offset = place.offset + 1 := by rw [made]
        have shorter : next.rest.length < fuel := by
          rw [found, List.length_cons] at enough
          rw [made]
          exact Nat.lt_of_succ_lt_succ enough
        rw [goesOn] at past ⊢
        rw [Option.toList_some, List.foldl_cons, List.foldl_nil]
        dsimp only
        split
        next ended =>
          -- an earlier round stopped at the next place and went on from there, in vain
          obtain ⟨here, beyond⟩ := exhausted.ended _ (List.contains_iff_mem.mp ended) (by omega)
          have failed : (inOrder greedy (next :: chain set next)).findSome? goal = none :=
            inOrder_findSome?_eq_none.mpr
              (List.forall_mem_cons.mpr ⟨here next within rfl, beyond next within rfl⟩)
          exact ⟨[], rfl, failed.symm, fun none =>
            ⟨List.forall_mem_cons.mpr ⟨.inr (past none), fun _ => .inl⟩, fun _ => .inl⟩⟩
        next =>
          have later (stops : List Place) := ih within shorter (further ▸ exhausted.further stops)
          have failed (none : (inOrder greedy (next :: chain set next)).findSome? goal = none) :
              FailsPast input goal set place.offset ∧
                Fails input goal (place.offset + 1) ∧ FailsPast input goal set (place.offset + 1) := by
            obtain ⟨here, beyond⟩ := List.forall_mem_cons.mp (inOrder_findSome?_eq_none.mp none)
            rw [← further]
            exact ⟨past none, uniform.fails within here, uniform.failsPast within beyond⟩
          rw [further] at later ⊢
          cases greedy with
          | true => exact ((later rounds.stops).stopAfter next).rebase failed
          | false => exact (later (next :: rounds.stops)).stopBefore.rebase failed

/-- Rounds that have dealt with nothing but in vain. -/
def Rounds.Dead (input : List Char) (goal : Place → Option γ) (set : CharSet) (rounds : Rounds) : Prop :=
  (∀ offset ∈ rounds.begun, FailsPast input goal set offset) ∧
  (∀ offset ∈ rounds.ended, Fails input goal offset ∧ FailsPast input goal set offset)

private theorem Rounds.Dead.exhausted {rounds : Rounds} (dead : rounds.Dead input goal set) (least : Nat) :
    rounds.Exhausted input goal set least where
  begun := fun offset member _ => dead.1 offset member
  ended := fun offset member _ => dead.2 offset member

private theorem Rounds.Adds.dead {rounds after : Rounds} {places : List Place}
    (adds : rounds.Adds input goal set after places) (none : places.findSome? goal = none)
    (dead : rounds.Dead input goal set) : after.Dead input goal set := by
  obtain ⟨-, -, -, closed⟩ := adds
  obtain ⟨begun, ended⟩ := closed none
  exact ⟨fun offset member => (begun offset member).elim (dead.1 offset) id,
    fun offset member => (ended offset member).elim (dead.2 offset) id⟩

/-- Rounds from one start after the other find what rounds from each of them would find. -/
theorem foldl_adds {visit : Rounds → Place → Rounds} {ways : Place → List Place}
    (grows : ∀ rounds place, rounds.stops <:+ (visit rounds place).stops)
    (adds : ∀ (rounds : Rounds) (place : Place), place.Of input → rounds.Dead input goal set →
      rounds.Adds input goal set (visit rounds place) (ways place))
    {starts : List Place} (inside : ∀ place ∈ starts, place.Of input) {rounds : Rounds}
    (dead : rounds.stops.reverse.findSome? goal = none → rounds.Dead input goal set) :
    (starts.foldl visit rounds).stops.reverse.findSome? goal =
      (rounds.stops.reverse.findSome? goal).or
        (starts.findSome? fun place => (ways place).findSome? goal) := by
  induction starts generalizing rounds with
  | nil => simp
  | cons place rest ih =>
    obtain ⟨here, others⟩ := List.forall_mem_cons.mp inside
    rw [List.foldl_cons, List.findSome?_cons]
    cases before : rounds.stops.reverse.findSome? goal with
    | some result =>
      have found : (visit rounds place).stops.reverse.findSome? goal = some result := by
        obtain ⟨added, grown⟩ := grows rounds place
        rw [← grown, List.reverse_append, List.findSome?_append, before]
        rfl
      rw [ih others (by simp [found]), found]
      rfl
    | none =>
      have adds := adds rounds place here (dead before)
      obtain ⟨added, stops, same, -⟩ := id adds
      have found : (visit rounds place).stops.reverse.findSome? goal =
          (ways place).findSome? goal := by
        rw [stops, List.reverse_append, List.findSome?_append, before, same]
        rfl
      rw [ih others (fun none => adds.dead (found ▸ none) (dead before)), found]
      cases (ways place).findSome? goal <;> rfl

private theorem dead_start (set : CharSet) : ({} : Rounds).Dead input goal set :=
  ⟨by simp, by simp⟩

private theorem step_closed (place : Place) (inside : place.Of input) :
    ∀ reached ∈ (place.step? set).toList, reached.Of input :=
  fun _ member => inside.step? (Option.mem_toList.mp member)

/-- What comes after one or more members of the set first succeeds as it would along the chains. -/
theorem oneOrMore_findSome? (uniform : Uniform input goal) (greedy : Bool) {starts : List Place}
    (inside : ∀ place ∈ starts, place.Of input) :
    (oneOrMore (fun place => (place.step? set).toList) greedy starts).findSome? goal =
      starts.findSome? fun place => (inOrder greedy (chain set place)).findSome? goal := by
  have grows (rounds : Rounds) (place : Place) := Rounds.begin_grows
    (fun place => (place.step? set).toList) greedy (place.rest.length + 2) rounds place
  have adds (rounds : Rounds) (place : Place) (within : place.Of input)
      (dead : rounds.Dead input goal set) :=
    Rounds.begin_adds uniform greedy within (Nat.lt_add_of_pos_right Nat.two_pos)
      (dead.exhausted place.offset)
  rw [oneOrMore, distinct_findSome? uniform
    (Rounds.foldl_all (fun _ _ => Rounds.begin_all step_closed greedy _) inside)]
  exact foldl_adds grows adds inside fun _ => dead_start set

theorem zeroOrMore_findSome? (uniform : Uniform input goal) (greedy : Bool) {starts : List Place}
    (inside : ∀ place ∈ starts, place.Of input) :
    (zeroOrMore (fun place => (place.step? set).toList) greedy starts).findSome? goal =
      starts.findSome? fun place => (inOrder greedy (place :: chain set place)).findSome? goal := by
  rw [zeroOrMore, distinct_findSome? uniform
    (Rounds.foldl_all (fun _ _ => Rounds.begin_or_stop_all step_closed greedy _) inside)]
  refine foldl_adds ?_ ?_ inside fun _ => dead_start set
  · intro rounds place
    split
    · exact (Rounds.begin_grows _ _ _ rounds place).trans (List.suffix_cons place _)
    · have later := Rounds.begin_grows (fun place => (place.step? set).toList) greedy
        (place.rest.length + 2) { rounds with stops := place :: rounds.stops } place
      exact (List.suffix_cons place _).trans later
  · intro rounds place within dead
    have enough : place.rest.length < place.rest.length + 2 := Nat.lt_add_of_pos_right Nat.two_pos
    split
    next chosen =>
      subst chosen
      exact (Rounds.begin_adds uniform true within enough (dead.exhausted _)).stopAfter place
    next chosen =>
      cases eq_false_of_ne_true chosen
      have dead : Rounds.Dead input goal set { rounds with stops := place :: rounds.stops } := dead
      exact (Rounds.begin_adds uniform false within enough (dead.exhausted _)).stopBefore

end Repetition

end TextScenario.Regex
