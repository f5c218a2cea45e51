import TextScenario.Json

/-! Lists of values by name, and fields that are kept sorted by name. -/

namespace TextScenario

theorem List.lookup_erased {α β : Type} [BEq α] [LawfulBEq α] [DecidableEq α]
    (entries : List (α × β)) (erased name : α) :
    (entries.filter fun entry => entry.1 != erased).lookup name =
      if name = erased then none else entries.lookup name := by
  induction entries with
  | nil => simp
  | cons entry rest ih =>
    obtain ⟨first, value⟩ := entry
    by_cases gone : first = erased
    · rw [List.filter_cons_of_neg (by simp [gone]), ih, List.lookup_cons]
      by_cases same : name = erased
      · simp [same]
      · simp [same, gone, beq_eq_false_iff_ne.mpr same]
    · rw [List.filter_cons_of_pos (by simp [gone]), List.lookup_cons, List.lookup_cons, ih]
      by_cases same : name = first
      · simp [same, gone]
      · simp [beq_eq_false_iff_ne.mpr same]

namespace Json

theorem lookup_field {α : Type} (name first : String) (value : α) (rest : List (String × α)) :
    ((first, value) :: rest).lookup name = if name = first then some value else rest.lookup name := by
  by_cases same : name = first
  · simp [same]
  · simp [List.lookup_cons, same, beq_eq_false_iff_ne.mpr same]

theorem lookup_insertField {α : Type} (name other : String) (value : α)
    (fields : List (String × α)) :
    (insertField name value fields).lookup other =
      if other = name then some value else fields.lookup other := by
  induction fields with
  | nil => rw [insertField, lookup_field]
  | cons field rest ih =>
    obtain ⟨first, kept⟩ := field
    rw [insertField]
    split
    · rw [lookup_field]
    · split
      next found =>
        subst found
        rw [lookup_field, lookup_field]
        split <;> rfl
      next different =>
        rw [lookup_field, lookup_field, ih]
        by_cases same : other = first
        · have distinct : first ≠ name := fun equal => different equal.symm
          simp [same, distinct]
        · simp [same]

theorem lookup_sortFields_map {α : Type} (value : String → α) (names : List String) (name : String) :
    (sortFields (names.map fun name => (name, value name))).lookup name =
      if name ∈ names then some (value name) else none := by
  have insertAll (sorted : List (String × α)) :
      ((names.map fun name => (name, value name)).foldl
        (fun sorted field => insertField field.1 field.2 sorted) sorted).lookup name =
        if name ∈ names then some (value name) else sorted.lookup name := by
    induction names generalizing sorted with
    | nil => rfl
    | cons first rest ih =>
      rw [List.map_cons, List.foldl_cons, ih, lookup_insertField]
      by_cases later : name ∈ rest
      · simp [later]
      · by_cases same : name = first
        · simp [same]
        · simp [later, same]
  exact insertAll []

theorem mem_names_iff {α : Type} {name : String} {fields : List (String × α)} :
    name ∈ fields.map (·.1) ↔ (fields.lookup name).isSome = true := by
  rw [List.lookup_isSome_iff, List.mem_map]
  exact ⟨fun ⟨field, member, same⟩ => ⟨field, member, by simp [same]⟩,
    fun ⟨field, member, same⟩ => ⟨field, member, (beq_iff_eq.mp same).symm⟩⟩

end Json

end TextScenario
