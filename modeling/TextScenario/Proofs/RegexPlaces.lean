import TextScenario.Regex.Match

/-! Facts about the stops of any expression: they are places in the same input, they need a start,
and leaving out later places at the same offset does not change which place is the first to allow
what comes after. -/

namespace TextScenario.Regex

def Place.Of (input : List Char) (place : Place) : Prop :=
  place.rest = input.drop place.offset

theorem Place.step?_eq_some {place next : Place} {set : CharSet}
    (stepped : place.step? set = some next) :
    ∃ char rest, place.rest = char :: rest ∧ set.contains char = true ∧
      next = { place with offset := place.offset + 1, previous := some char, rest } := by
  rw [Place.step?] at stepped
  split at stepped
  next => cases stepped
  next char rest found =>
    split at stepped
    next member =>
      cases stepped
      exact ⟨char, rest, found, member, rfl⟩
    next => cases stepped

theorem Place.Of.step? {input : List Char} {place next : Place} {set : CharSet}
    (inside : place.Of input) (stepped : place.step? set = some next) : next.Of input := by
  obtain ⟨char, rest, found, -, rfl⟩ := Place.step?_eq_some stepped
  rw [Place.Of, ← List.drop_drop, ← inside, found, List.drop_one, List.tail_cons]

private theorem distinctFrom_mem {seen : List Nat} {places : List Place} {place : Place}
    (member : place ∈ distinctFrom seen places) : place ∈ places := by
  induction places generalizing seen with
  | nil => cases member
  | cons first rest ih =>
    rw [distinctFrom] at member
    split at member
    · exact .tail _ (ih member)
    · rcases List.mem_cons.mp member with rfl | member
      · exact .head _
      · exact .tail _ (ih member)

theorem distinct_mem {places : List Place} {place : Place} (member : place ∈ distinct places) :
    place ∈ places := by
  unfold distinct at member
  split at member
  · exact member
  · exact member
  · exact distinctFrom_mem member

/-- Success that depends on the offset only. -/
def Uniform {γ : Type} (input : List Char) (goal : Place → Option γ) : Prop :=
  ∀ first second : Place, first.Of input → second.Of input → first.offset = second.offset →
    goal first = none → goal second = none

private theorem distinctFrom_findSome? {γ : Type} {input : List Char} {goal : Place → Option γ}
    (uniform : Uniform input goal) {places : List Place} (inside : ∀ place ∈ places, place.Of input)
    {seen : List Nat} (failed : ∀ place ∈ places, place.offset ∈ seen → goal place = none) :
    (distinctFrom seen places).findSome? goal = places.findSome? goal := by
  induction places generalizing seen with
  | nil => rfl
  | cons first rest ih =>
    obtain ⟨here, others⟩ := List.forall_mem_cons.mp inside
    obtain ⟨now, later⟩ := List.forall_mem_cons.mp failed
    rw [distinctFrom, List.findSome?_cons]
    split
    next known => rw [ih others later, now (List.contains_iff_mem.mp known)]
    next =>
      rw [List.findSome?_cons]
      cases reached : goal first with
      | some result => rfl
      | none =>
        refine ih others ?_
        intro place member known
        rcases List.mem_cons.mp known with same | known
        · exact uniform first place here (others place member) same.symm reached
        · exact later place member known

theorem distinct_findSome? {γ : Type} {input : List Char} {goal : Place → Option γ}
    (uniform : Uniform input goal) {places : List Place}
    (inside : ∀ place ∈ places, place.Of input) :
    (distinct places).findSome? goal = places.findSome? goal := by
  unfold distinct
  split
  · rfl
  · rfl
  · exact distinctFrom_findSome? uniform inside (by simp)

theorem Rounds.begin_grows (body : Place → List Place) (greedy : Bool) (fuel : Nat) (rounds : Rounds)
    (place : Place) : rounds.stops <:+ (Rounds.begin body greedy fuel rounds place).stops := by
  induction fuel generalizing rounds place with
  | zero => exact List.suffix_refl _
  | succ fuel ih =>
    rw [Rounds.begin]
    split
    · exact List.suffix_refl _
    · refine List.foldlRecOn (body place) _
        (motive := fun (after : Rounds) => rounds.stops <:+ after.stops) (List.suffix_refl _) ?_
      intro after kept reached _
      dsimp only
      split
      · exact kept
      · split
        · have later := ih { after with ended := reached.offset :: after.ended } reached
          exact (kept.trans later).trans (List.suffix_cons reached _)
        · have later := ih
            { after with ended := reached.offset :: after.ended, stops := reached :: after.stops } reached
          exact (kept.trans (List.suffix_cons reached _)).trans later

section Closed

variable {holds : Place → Prop} {body : Place → List Place}

/-- What holds wherever a round ends that was begun at the start or at the end of another round, all stops of a
repetition have. -/
theorem Rounds.begin_ends {ends : Place → Prop}
    (closed : ∀ place, holds place → ∀ reached ∈ body place, holds reached ∧ ends reached)
    (greedy : Bool) (fuel : Nat) {rounds : Rounds} {place : Place} (start : holds place)
    (known : ∀ stop ∈ rounds.stops, ends stop) :
    ∀ stop ∈ (Rounds.begin body greedy fuel rounds place).stops, ends stop := by
  induction fuel generalizing rounds place with
  | zero => exact known
  | succ fuel ih =>
    rw [Rounds.begin]
    split
    · exact known
    · have reachedAll := closed place start
      generalize body place = reached at reachedAll
      generalize begun : ({ rounds with begun := place.offset :: rounds.begun } : Rounds) = state
      have known : ∀ stop ∈ state.stops, ends stop := begun ▸ known
      clear begun
      induction reached generalizing state with
      | nil => exact known
      | cons first others each =>
        obtain ⟨⟨here, found⟩, later⟩ := List.forall_mem_cons.mp reachedAll
        refine each later _ ?_
        dsimp only
        split
        · exact known
        · split
          · exact List.forall_mem_cons.mpr ⟨found, ih here known⟩
          · exact ih here (List.forall_mem_cons.mpr ⟨found, known⟩)

/-- What every round keeps, all stops of a repetition have. -/
theorem Rounds.begin_all (closed : ∀ place, holds place → ∀ reached ∈ body place, holds reached)
    (greedy : Bool) (fuel : Nat) {rounds : Rounds} {place : Place} (start : holds place)
    (known : ∀ stop ∈ rounds.stops, holds stop) :
    ∀ stop ∈ (Rounds.begin body greedy fuel rounds place).stops, holds stop := by
  have both (place : Place) (here : holds place) (reached : Place) (member : reached ∈ body place) :
      holds reached ∧ holds reached :=
    and_self_iff.mpr (closed place here reached member)
  exact Rounds.begin_ends both greedy fuel start known

/-- A visit of `zeroOrMore`, which also stops where it starts. -/
theorem Rounds.begin_or_stop_all
    (closed : ∀ place, holds place → ∀ reached ∈ body place, holds reached) (greedy : Bool) (fuel : Nat)
    {rounds : Rounds} {place : Place} (start : holds place) (known : ∀ stop ∈ rounds.stops, holds stop) :
    ∀ stop ∈
      (if greedy then
        let rounds := Rounds.begin body greedy fuel rounds place
        { rounds with stops := place :: rounds.stops }
      else
        let rounds := { rounds with stops := place :: rounds.stops }
        Rounds.begin body greedy fuel rounds place).stops, holds stop := by
  split
  · exact List.forall_mem_cons.mpr ⟨start, Rounds.begin_all closed greedy fuel start known⟩
  · exact Rounds.begin_all closed greedy fuel start (List.forall_mem_cons.mpr ⟨start, known⟩)

theorem Rounds.foldl_all {ends : Place → Prop} {visit : Rounds → Place → Rounds}
    (kept : ∀ (rounds : Rounds) (place : Place), holds place → (∀ stop ∈ rounds.stops, ends stop) →
      ∀ stop ∈ (visit rounds place).stops, ends stop)
    {starts : List Place} (all : ∀ place ∈ starts, holds place) :
    ∀ stop ∈ (starts.foldl visit {}).stops.reverse, ends stop := by
  intro stop member
  refine List.foldlRecOn starts visit
    (motive := fun (rounds : Rounds) => ∀ stop ∈ rounds.stops, ends stop) (by simp) ?_ stop
    (List.mem_reverse.mp member)
  exact fun rounds known place inside => kept rounds place (all place inside) known

theorem oneOrMore_ends {ends : Place → Prop}
    (closed : ∀ place, holds place → ∀ reached ∈ body place, holds reached ∧ ends reached)
    (greedy : Bool) {starts : List Place} (all : ∀ place ∈ starts, holds place) :
    ∀ stop ∈ oneOrMore body greedy starts, ends stop := fun stop member =>
  Rounds.foldl_all (fun _ _ => Rounds.begin_ends closed greedy _) all stop (distinct_mem member)

private theorem oneOrMore_all (closed : ∀ place, holds place → ∀ reached ∈ body place, holds reached)
    (greedy : Bool) {starts : List Place} (all : ∀ place ∈ starts, holds place) :
    ∀ stop ∈ oneOrMore body greedy starts, holds stop := fun stop member =>
  Rounds.foldl_all (fun _ _ => Rounds.begin_all closed greedy _) all stop (distinct_mem member)

theorem zeroOrMore_all (closed : ∀ place, holds place → ∀ reached ∈ body place, holds reached)
    (greedy : Bool) {starts : List Place} (all : ∀ place ∈ starts, holds place) :
    ∀ stop ∈ zeroOrMore body greedy starts, holds stop := fun stop member =>
  Rounds.foldl_all (fun _ _ => Rounds.begin_or_stop_all closed greedy _) all stop (distinct_mem member)

/-- What holds with a number of rounds left, and holds with one less where a round ends. -/
theorem Visits.visit_ends {holds : Nat → Place → Prop} {ends : Place → Prop}
    (closed : ∀ left place, holds (left + 1) place → ∀ reached ∈ body place, holds left reached)
    (found : ∀ left place, holds left place → ends place) (greedy : Bool) (left : Nat) {visits : Visits}
    {place : Place} (start : holds left place) (known : ∀ stop ∈ visits.stops, ends stop) :
    ∀ stop ∈ (Visits.visit body greedy left visits place).stops, ends stop := by
  induction left generalizing visits place with
  | zero =>
    rw [Visits.visit]
    split
    · exact known
    · exact List.forall_mem_cons.mpr ⟨found _ _ start, known⟩
  | succ left ih =>
    rw [Visits.visit]
    have goesOn (state : Visits) (known : ∀ stop ∈ state.stops, ends stop) :
        ∀ stop ∈ ((body place).foldl (fun visits reached => Visits.visit body greedy left visits reached)
          state).stops, ends stop := by
      refine List.foldlRecOn (body place) _
        (motive := fun (visits : Visits) => ∀ stop ∈ visits.stops, ends stop) known ?_
      intro visits known reached inside
      exact ih (closed left place start reached inside) known
    split
    · exact known
    · dsimp only
      split
      · exact List.forall_mem_cons.mpr ⟨found _ _ start, goesOn _ known⟩
      · exact goesOn _ (List.forall_mem_cons.mpr ⟨found _ _ start, known⟩)

theorem atMost_ends (holds : Nat → Place → Prop) (ends : Place → Prop)
    (closed : ∀ left place, holds (left + 1) place → ∀ reached ∈ body place, holds left reached)
    (found : ∀ left place, holds left place → ends place) (greedy : Bool) (left : Nat) {starts : List Place}
    (all : ∀ place ∈ starts, holds left place) : ∀ stop ∈ atMost body greedy left starts, ends stop := by
  intro stop member
  have member := List.mem_reverse.mp (distinct_mem member)
  refine List.foldlRecOn starts _ (motive := fun (visits : Visits) => ∀ stop ∈ visits.stops, ends stop)
    (by simp) ?_ stop member
  intro visits known place inside
  exact Visits.visit_ends closed found greedy left (all place inside) known

private theorem atMost_all (closed : ∀ place, holds place → ∀ reached ∈ body place, holds reached)
    (greedy : Bool) (left : Nat) {starts : List Place} (all : ∀ place ∈ starts, holds place) :
    ∀ stop ∈ atMost body greedy left starts, holds stop :=
  atMost_ends (fun _ => holds) holds (fun _ => closed) (fun _ _ here => here) greedy left all

theorem times_all {step : List Place → List Place}
    (closed : ∀ places, (∀ place ∈ places, holds place) → ∀ stop ∈ step places, holds stop)
    (count : Nat) {starts : List Place} (all : ∀ place ∈ starts, holds place) :
    ∀ stop ∈ times step count starts, holds stop := by
  induction count generalizing starts with
  | zero => exact all
  | succ count ih => exact ih (closed starts all)

end Closed

/-- What steps, the starts of groups and their ends keep, all stops of an expression have. -/
theorem stops_all {holds : Place → Prop}
    (stepped : ∀ place next set, holds place → place.step? set = some next → holds next)
    (opened : ∀ place, holds place → holds place.open)
    (closed : ∀ place index, holds place → holds (place.close index)) (regex : Regex)
    {starts : List Place} (all : ∀ place ∈ starts, holds place) : ∀ stop ∈ regex.stops starts, holds stop := by
  induction regex generalizing starts with
  | empty => exact all
  | chars set =>
    intro stop member
    rw [stops, List.mem_filterMap] at member
    obtain ⟨place, member, next⟩ := member
    exact stepped place stop set (all place member) next
  | look kind => exact fun stop member => all stop (List.mem_filter.mp member).1
  | concat left right first second => exact second (first all)
  | alternate left right first second =>
    intro stop member
    have member := distinct_mem member
    rw [List.mem_flatMap] at member
    obtain ⟨place, member, reached⟩ := member
    have alone : ∀ only ∈ [place], holds only := by simpa using all place member
    rcases List.mem_append.mp reached with reached | reached
    · exact first alone stop reached
    · exact second alone stop reached
  | repeated inner least most greedy ih =>
    have kept (place : Place) (here : holds place) : ∀ reached ∈ inner.stops [place], holds reached :=
      ih (by simpa using here)
    have start (count : Nat) : ∀ stop ∈ times inner.stops count starts, holds stop :=
      times_all (fun _ all => ih all) count all
    rw [stops.eq_def]
    dsimp only
    split
    · split
      · exact zeroOrMore_all kept greedy all
      · exact oneOrMore_all kept greedy (start _)
    · exact atMost_all kept greedy _ (start _)
  | group index name inner ih =>
    intro stop member
    rw [stops] at member
    obtain ⟨reached, arrived, rfl⟩ := List.mem_map.mp member
    have begun : ∀ place ∈ starts.map Place.open, holds place :=
      List.forall_mem_map.mpr fun place member => opened place (all place member)
    exact closed reached index (ih begun reached arrived)

theorem Place.close_rest (index : Nat) (place : Place) : (place.close index).rest = place.rest := by
  unfold Place.close
  split <;> rfl

theorem Place.close_offset (index : Nat) (place : Place) : (place.close index).offset = place.offset := by
  unfold Place.close
  split <;> rfl

/-- Expressions stay in their input. -/
theorem stops_of {input : List Char} (regex : Regex) {starts : List Place}
    (inside : ∀ place ∈ starts, place.Of input) : ∀ stop ∈ regex.stops starts, stop.Of input := by
  refine stops_all (fun _ _ _ => Place.Of.step?) (fun _ here => here) ?_ regex inside
  intro place index here
  rw [Place.Of, Place.close_rest, Place.close_offset]
  exact here

theorem stops_concat (left right : Regex) (starts : List Place) :
    (left.concat right).stops starts = right.stops (left.stops starts) := rfl

theorem stops_nil (regex : Regex) : regex.stops [] = [] := by
  have repeatNone (inner : Regex) (ih : inner.stops [] = []) (count : Nat) :
      times inner.stops count [] = [] := by
    induction count with
    | zero => rfl
    | succ count same => rw [times, ih, same]
  induction regex with
  | empty | chars | look | alternate => rfl
  | concat left right first second => rw [stops, first, second]
  | repeated inner least most greedy ih =>
    rw [stops.eq_def]
    dsimp only
    split
    · split
      · rfl
      · rw [repeatNone inner ih]
        rfl
    · rw [repeatNone inner ih]
      rfl
  | group index name inner ih => rw [stops, List.map_nil, ih, List.map_nil]

end TextScenario.Regex
