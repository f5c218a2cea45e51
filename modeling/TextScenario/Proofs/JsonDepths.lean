import TextScenario.Json.Shallow

/-! Depths of containers. A shallow copy keeps the containers above its depth and has none below: a
copy of a copy is the copy to the lesser of both depths, and values without deeper containers are kept. -/

namespace TextScenario.Json

def isContainer : Json → Bool
  | .array _ | .object _ => true
  | _ => false

/-- Where containers lie. The value itself is at depth zero, its members are at the next one. -/
inductive HasContainer : Json → Nat → Prop
  | array {items} : HasContainer (.array items) 0
  | object {fields} : HasContainer (.object fields) 0
  | item {items item place} (member : item ∈ items) (inside : HasContainer item place) :
      HasContainer (.array items) (place + 1)
  | field {fields field place} (member : field ∈ fields) (inside : HasContainer field.2 place) :
      HasContainer (.object fields) (place + 1)

/-- All containers of the value lie above this depth. -/
def Within (depth : Nat) (json : Json) : Prop :=
  ∀ place, json.HasContainer place → place < depth

variable {json : Json} {items : List Json} {fields : List (String × Json)} {depth place : Nat}

/-- What holds of leaves, and of containers if it holds of their members, holds of every value. -/
theorem memberInduction {holds : Json → Prop}
    (leaf : ∀ json, json.isContainer = false → holds json)
    (array : ∀ items, (∀ item ∈ items, holds item) → holds (.array items))
    (object : ∀ fields, (∀ field ∈ fields, holds field.2) → holds (.object fields)) :
    ∀ json, holds json
  | .array items => array items fun item _ => memberInduction leaf array object item
  | .object fields => object fields fun field _ => memberInduction leaf array object field.2
  | .null | .bool _ | .integer _ | .double _ | .text _ => leaf _ rfl
termination_by json => sizeOf json
decreasing_by
  next member =>
    have smaller := List.sizeOf_lt_of_mem member
    simp only [Json.array.sizeOf_spec]
    omega
  next member =>
    have smaller := List.sizeOf_lt_of_mem member
    cases field
    simp only [Json.object.sizeOf_spec, Prod.mk.sizeOf_spec] at *
    omega

private theorem HasContainer.isContainer (has : json.HasContainer place) : json.isContainer = true := by
  cases has <;> rfl

private theorem within_leaf (leaf : json.isContainer = false) (depth : Nat) : json.Within depth := by
  intro place has
  rw [has.isContainer] at leaf
  cases leaf

private theorem within_array : (array items).Within depth ↔
    ∃ above, depth = above + 1 ∧ ∀ item ∈ items, item.Within above := by
  constructor
  · intro within
    obtain ⟨above, rfl⟩ := Nat.exists_eq_add_of_lt (within 0 .array)
    refine ⟨above, by omega, ?_⟩
    intro item member place inside
    have bound := within (place + 1) (.item member inside)
    omega
  · rintro ⟨above, rfl, within⟩ place has
    cases has with
    | array => omega
    | item member inside =>
      have bound := within _ member _ inside
      omega

private theorem within_object : (object fields).Within depth ↔
    ∃ above, depth = above + 1 ∧ ∀ field ∈ fields, field.2.Within above := by
  constructor
  · intro within
    obtain ⟨above, rfl⟩ := Nat.exists_eq_add_of_lt (within 0 .object)
    refine ⟨above, by omega, ?_⟩
    intro field member place inside
    have bound := within (place + 1) (.field member inside)
    omega
  · rintro ⟨above, rfl, within⟩ place has
    cases has with
    | object => omega
    | field member inside =>
      have bound := within _ member _ inside
      omega

theorem shallowItems_eq (depth : Nat) (items : List Json) :
    shallowItems depth items = items.map (shallow depth) := by
  induction items with
  | nil => rfl
  | cons item rest ih => rw [shallowItems, ih, List.map_cons]

theorem shallowFields_eq (depth : Nat) (fields : List (String × Json)) :
    shallowFields depth fields = fields.map fun field => (field.1, shallow depth field.2) := by
  induction fields with
  | nil => rfl
  | cons field rest ih => rw [shallowFields, ih, List.map_cons]

@[simp]
private theorem shallow_leaf (leaf : json.isContainer = false) (depth : Nat) : shallow depth json = json := by
  cases json with
  | array | object => cases leaf
  | _ => rfl

@[simp]
theorem shallow_array_succ (depth : Nat) (items : List Json) :
    shallow (depth + 1) (array items) = array (items.map (shallow depth)) := by
  rw [shallow, shallowItems_eq]

@[simp]
theorem shallow_object_succ (depth : Nat) (fields : List (String × Json)) :
    shallow (depth + 1) (object fields) =
      object (fields.map fun field => (field.1, shallow depth field.2)) := by
  rw [shallow, shallowFields_eq]

theorem shallow_zero (json : Json) : (shallow 0 json).isContainer = false := by
  cases json <;> rfl

/-- The size in a note is that of the container, whether its members were cut before or not. -/
theorem shallow_zero_shallow (depth : Nat) (json : Json) : shallow 0 (shallow depth json) = shallow 0 json := by
  cases depth with
  | zero => exact shallow_leaf (shallow_zero json) 0
  | succ depth =>
    cases json with
    | array items => rw [shallow_array_succ, shallow, shallow, List.length_map]
    | object fields => rw [shallow_object_succ, shallow, shallow, List.length_map]
    | _ => rfl

/-- At depth zero copies are alike whatever the value, so that only depths beyond that depend on the members. -/
private theorem shallow_of_members {json : Json} (members : ∀ first second,
    shallow (second + 1) (shallow (first + 1) json) = shallow (min first second + 1) json) (first second : Nat) :
    shallow second (shallow first json) = shallow (min first second) json := by
  cases second with
  | zero => rw [shallow_zero_shallow, Nat.min_zero]
  | succ second =>
    cases first with
    | zero => rw [shallow_leaf (shallow_zero _), Nat.zero_min]
    | succ first => rw [members, Nat.succ_min_succ]

private theorem shallow_shallow (json : Json) (first second : Nat) :
    shallow second (shallow first json) = shallow (min first second) json := by
  induction json using memberInduction generalizing first second with
  | leaf json leaf => simp only [shallow_leaf leaf]
  | array items ih =>
    apply shallow_of_members
    intro first second
    rw [shallow_array_succ, shallow_array_succ, shallow_array_succ, List.map_map]
    exact congrArg array (List.map_congr_left fun item member => ih item member first second)
  | object fields ih =>
    apply shallow_of_members
    intro first second
    rw [shallow_object_succ, shallow_object_succ, shallow_object_succ, List.map_map]
    refine congrArg object (List.map_congr_left fun field member => ?_)
    exact congrArg (Prod.mk field.1) (ih field member first second)

private theorem shallow_within (json : Json) (depth : Nat) : (shallow depth json).Within depth := by
  induction json using memberInduction generalizing depth with
  | leaf json leaf =>
    rw [shallow_leaf leaf]
    exact within_leaf leaf depth
  | array items ih =>
    cases depth with
    | zero => exact within_leaf (shallow_zero _) 0
    | succ depth =>
      rw [shallow_array_succ, within_array]
      refine ⟨depth, rfl, ?_⟩
      intro copy copied
      obtain ⟨item, member, rfl⟩ := List.mem_map.mp copied
      exact ih item member depth
  | object fields ih =>
    cases depth with
    | zero => exact within_leaf (shallow_zero _) 0
    | succ depth =>
      rw [shallow_object_succ, within_object]
      refine ⟨depth, rfl, ?_⟩
      intro copy copied
      obtain ⟨field, member, rfl⟩ := List.mem_map.mp copied
      exact ih field member depth

private theorem shallow_of_within (within : json.Within depth) : shallow depth json = json := by
  induction json using memberInduction generalizing depth with
  | leaf json leaf => exact shallow_leaf leaf depth
  | array items ih =>
    obtain ⟨above, rfl, members⟩ := within_array.mp within
    rw [shallow_array_succ,
      List.map_congr_left fun item member => ih item member (members item member), List.map_id']
  | object fields ih =>
    obtain ⟨above, rfl, members⟩ := within_object.mp within
    have same : ∀ field ∈ fields, (field.1, shallow above field.2) = field := fun field member =>
      congrArg (Prod.mk field.1) (ih field member (members field member))
    rw [shallow_object_succ, List.map_congr_left same, List.map_id']

/-- Shallow copies commute: the lesser depth decides. A copy is the value itself exactly if no container
lies at its depth or deeper, and none lies there in the copy. -/
theorem shallow_truncates (json : Json) (first second : Nat) :
    shallow second (shallow first json) = shallow (min first second) json ∧
      (shallow first json = json ↔ json.Within first) ∧ (shallow first json).Within first := by
  have within := shallow_within json first
  refine ⟨shallow_shallow json first second, ⟨?_, shallow_of_within⟩, within⟩
  intro same
  rwa [same] at within

end TextScenario.Json
