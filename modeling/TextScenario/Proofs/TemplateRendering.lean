import Mathlib.Algebra.Order.BigOperators.Group.List
import Mathlib.Algebra.Order.Group.Nat
import TextScenario.Proofs.TextPieces
import TextScenario.Template

/-! Rendering a template. The result depends on what the template shows for each of its names and on
nothing else, and it tells these texts apart. What is rendered is not looked at again, so braces of the
template's own text can become placeholders around a value. -/

namespace TextScenario

/-- What a template shows for a name: its value, or the name in braces if it has none. -/
def Parameters.shown (parameters : Parameters) (name : String) : String :=
  (parameters.value? name).getD ("\x7b" ++ name ++ "\x7d")

namespace Template
open Text

private theorem mem_distinct {names : List String} {name : String} : name ∈ distinct names ↔ name ∈ names := by
  have added (seen names : List String) :
      name ∈ names.foldl (fun seen name => if seen.contains name then seen else seen ++ [name]) seen ↔
        name ∈ seen ∨ name ∈ names := by
    induction names generalizing seen with
    | nil => simp
    | cons first rest ih =>
      rw [List.foldl_cons, ih, List.mem_cons]
      split
      next known =>
        have known : first ∈ seen := by simpa using known
        constructor
        · exact Or.imp_right .inr
        · rintro (earlier | rfl | later)
          · exact .inl earlier
          · exact .inl known
          · exact .inr later
      next => rw [List.mem_append, List.mem_singleton, or_assoc]
  rw [distinct, added]
  simp

private theorem mem_placeholders {template name : String} :
    name ∈ placeholders template ↔ .placeholder name.toList ∈ pieces template := by
  rw [placeholders, mem_distinct, List.mem_filterMap]
  constructor
  · rintro ⟨piece, member, named⟩
    cases piece with
    | char own => cases named
    | placeholder own =>
      cases named
      rwa [String.toList_ofList]
  · intro member
    exact ⟨_, member, congrArg some String.ofList_toList⟩

private theorem render_toList (template : String) (parameters : Parameters) :
    (render template parameters).toList = (pieces template).flatMap (renderPiece parameters) :=
  String.toList_ofList

private theorem renderPiece_placeholder (parameters : Parameters) (name : List Char) :
    renderPiece parameters (.placeholder name) = (parameters.shown (String.ofList name)).toList := by
  rw [renderPiece, Parameters.shown]
  cases parameters.value? (String.ofList name) with
  | some value => rfl
  | none =>
    simp only [Option.getD_none, String.toList_append, String.toList_ofList]
    rfl

section

variable {α β : Type} {items : List α} {first second : α → List β}

/-- Texts that are written piece by piece are the same only piece by piece, if no piece moves another. -/
theorem flatMap_aligned (aligned : ∀ item ∈ items, (first item).length = (second item).length)
    (same : items.flatMap first = items.flatMap second) : ∀ item ∈ items, first item = second item := by
  induction items with
  | nil => simp
  | cons item items ih =>
    obtain ⟨here, later⟩ := List.forall_mem_cons.mp aligned
    rw [List.flatMap_cons, List.flatMap_cons] at same
    obtain ⟨head, tail⟩ := List.append_inj same here
    exact List.forall_mem_cons.mpr ⟨head, ih later tail⟩

private theorem flatMap_longer {item : α} (member : item ∈ items)
    (longer : (first item).length < (second item).length)
    (alike : ∀ other ∈ items, other ≠ item → first other = second other) :
    (items.flatMap first).length < (items.flatMap second).length := by
  rw [List.length_flatMap, List.length_flatMap]
  refine List.sum_lt_sum _ _ (fun other inside => ?_) ⟨item, member, longer⟩
  by_cases same : other = item
  · rw [same]
    exact longer.le
  · rw [alike other inside same]

/-- No other piece makes up for an item that is written differently. -/
theorem flatMap_ne {item : α} (member : item ∈ items) (differs : first item ≠ second item)
    (alike : ∀ other ∈ items, other ≠ item → first other = second other) :
    items.flatMap first ≠ items.flatMap second := by
  intro same
  rcases Nat.lt_trichotomy (first item).length (second item).length with shorter | equal | longer
  · exact absurd (congrArg List.length same) (flatMap_longer member shorter alike).ne
  · have aligned : ∀ other ∈ items, (first other).length = (second other).length := by
      intro other inside
      by_cases here : other = item
      · rw [here, equal]
      · rw [alike other inside here]
    exact differs (flatMap_aligned aligned same item member)
  · have alike : ∀ other ∈ items, other ≠ item → second other = first other :=
      fun other inside apart => (alike other inside apart).symm
    exact absurd (congrArg List.length same) (flatMap_longer member longer alike).ne'

end

/-- A template uses exactly the parameters that it names. What it shows for these decides the result, one
of them that is shown differently changes it, and without any parameters the template stays as it is. -/
theorem render_uses_names (template : String) :
    (∀ first second : Parameters,
      (∀ name ∈ placeholders template, first.shown name = second.shown name) →
        render template first = render template second) ∧
    (∀ (first second : Parameters) (name : String), name ∈ placeholders template →
      first.shown name ≠ second.shown name →
      (∀ other ∈ placeholders template, other ≠ name → first.shown other = second.shown other) →
        render template first ≠ render template second) ∧
    render template [] = template := by
  have named {name : List Char} (member : .placeholder name ∈ pieces template) :
      String.ofList name ∈ placeholders template := by
    rwa [mem_placeholders, String.toList_ofList]
  refine ⟨?_, ?_, ?_⟩
  · intro first second same
    refine String.toList_inj.mp ?_
    rw [render_toList, render_toList]
    refine List.flatMap_congr fun piece member => ?_
    cases piece with
    | char own => rfl
    | placeholder name =>
      rw [renderPiece_placeholder, renderPiece_placeholder, same _ (named member)]
  · intro first second name member differs alike same
    have shown : renderPiece first (.placeholder name.toList) ≠
        renderPiece second (.placeholder name.toList) := by
      rw [renderPiece_placeholder, renderPiece_placeholder, String.ofList_toList]
      exact fun equal => differs (String.toList_inj.mp equal)
    refine flatMap_ne (mem_placeholders.mp member) shown ?_ (by
      rw [← render_toList, ← render_toList, same])
    intro piece inside apart
    cases piece with
    | char own => rfl
    | placeholder other =>
      have apart : String.ofList other ≠ name := by
        rintro rfl
        exact apart (by rw [String.toList_ofList])
      rw [renderPiece_placeholder, renderPiece_placeholder, alike _ (named inside) apart]
  · have source : renderPiece [] = Piece.source := by
      funext piece
      cases piece <;> rfl
    refine String.toList_inj.mp ?_
    rw [render_toList, source]
    exact pieces_source nameRule template.toList

/-- The name that is shown differently occurs twice, and its values have different lengths. -/
theorem render_uses_names_twice :
    let template := "\x7ba\x7d1\x7bb\x7d \x7ba\x7d"
    let first : Parameters := [("a", some "1")]
    let second : Parameters := [("a", some "11"), ("b", none)]
    ("a" ∈ placeholders template ∧ first.shown "a" ≠ second.shown "a" ∧
      ∀ other ∈ placeholders template, other ≠ "a" → first.shown other = second.shown other) ∧
    render template first ≠ render template second := by
  intro template first second
  have member : "a" ∈ placeholders template := by decide +kernel
  have differs : first.shown "a" ≠ second.shown "a" := by decide
  have alike : ∀ other ∈ placeholders template, other ≠ "a" → first.shown other = second.shown other := by
    decide +kernel
  exact ⟨⟨member, differs, alike⟩, (render_uses_names template).2.1 first second "a" member differs alike⟩

/-- A word that rendering puts between two braces of the template's own text, which belong to none of its
placeholders. -/
def Frames (template : String) (parameters : Parameters) (word : String) : Prop :=
  ∃ before inner after, pieces template = before ++ .char '{' :: (inner ++ .char '}' :: after) ∧
    inner.flatMap (renderPiece parameters) = word.toList ∧ nameRule.accepts word.toList = true

/-- A character that no value brings in stands in the result where it stands in the template. -/
theorem flatMap_renderPiece_split {parameters : Parameters} {pieces : List Piece} {char : Char}
    (own : ∀ piece ∈ pieces, char ∈ renderPiece parameters piece → piece = .char char)
    {before after : List Char}
    (whole : pieces.flatMap (renderPiece parameters) = before ++ char :: after) :
    ∃ earlier later, pieces = earlier ++ .char char :: later ∧
      earlier.flatMap (renderPiece parameters) = before ∧
      later.flatMap (renderPiece parameters) = after := by
  induction pieces generalizing before with
  | nil => simp at whole
  | cons piece pieces ih =>
    obtain ⟨here, others⟩ := List.forall_mem_cons.mp own
    -- the character stands behind what the first piece shows, or it is in it
    have later (left : List Char) (before_eq : before = renderPiece parameters piece ++ left)
        (rest : pieces.flatMap (renderPiece parameters) = left ++ char :: after) :
        ∃ earlier later, piece :: pieces = earlier ++ .char char :: later ∧
          earlier.flatMap (renderPiece parameters) = before ∧
          later.flatMap (renderPiece parameters) = after := by
      obtain ⟨earlier, later, split, first, second⟩ := ih others rest
      refine ⟨piece :: earlier, later, by rw [split, List.cons_append], ?_, second⟩
      rw [List.flatMap_cons, first, before_eq]
    rw [List.flatMap_cons] at whole
    rcases List.append_eq_append_iff.mp whole with ⟨left, before_eq, rest⟩ | ⟨left, inside, rest⟩
    · exact later left before_eq rest
    · cases left with
      | nil => exact later [] (by simpa using inside.symm) (by simpa using rest.symm)
      | cons first left =>
        obtain ⟨rfl, ended⟩ := List.cons.inj rest
        obtain rfl := here (by simp [inside])
        have single : [char] = before ++ char :: left := inside
        cases before with
        | nil =>
          cases single
          exact ⟨[], pieces, rfl, rfl, ended.symm⟩
        | cons second before => simp at single

/-- A template whose names all have values without braces leaves the placeholders that its own braces
frame, and no others; none are left if it has no brace to open or none to close one. -/
theorem placeholders_render {template : String} {parameters : Parameters}
    (supplied : ∀ name ∈ placeholders template, ∃ value, parameters.value? name = some value ∧
      '{' ∉ value.toList ∧ '}' ∉ value.toList) :
    (∀ word, word ∈ placeholders (render template parameters) ↔ Frames template parameters word) ∧
    (placeholders (render template parameters) = [] ↔ ∀ word, ¬ Frames template parameters word) ∧
    (.char '{' ∉ pieces template ∨ .char '}' ∉ pieces template →
      placeholders (render template parameters) = []) := by
  have own (char : Char) (brace : char = '{' ∨ char = '}') :
      ∀ piece ∈ pieces template, char ∈ renderPiece parameters piece → piece = .char char := by
    intro piece member inside
    cases piece with
    | char other =>
      obtain rfl : char = other := by simpa [renderPiece] using inside
      rfl
    | placeholder name =>
      obtain ⟨value, found, noOpen, noClose⟩ := supplied (String.ofList name)
        (by rwa [mem_placeholders, String.toList_ofList])
      simp only [renderPiece, found] at inside
      rcases brace with rfl | rfl
      · exact absurd inside noOpen
      · exact absurd inside noClose
  have frames (word : String) :
      word ∈ placeholders (render template parameters) ↔ Frames template parameters word := by
    rw [mem_placeholders, pieces, placeholder_mem_pieces_iff (by decide) (by decide), render_toList]
    constructor
    · rintro ⟨accepted, before, after, whole⟩
      obtain ⟨earlier, later, split, -, rest⟩ := flatMap_renderPiece_split (own '{' (.inl rfl)) whole
      have own : ∀ piece ∈ later, '}' ∈ renderPiece parameters piece → piece = .char '}' :=
        fun piece member => own '}' (.inr rfl) piece (by rw [split]; simp [member])
      obtain ⟨inner, last, parted, shown, -⟩ := flatMap_renderPiece_split own rest
      exact ⟨earlier, inner, last, by rw [split, parted], shown, accepted⟩
    · rintro ⟨before, inner, after, split, shown, accepted⟩
      refine ⟨accepted, before.flatMap (renderPiece parameters),
        after.flatMap (renderPiece parameters), ?_⟩
      rw [split]
      simp [renderPiece, shown]
  have none : placeholders (render template parameters) = [] ↔ ∀ word, ¬ Frames template parameters word := by
    rw [List.eq_nil_iff_forall_not_mem]
    exact forall_congr' fun word => not_congr (frames word)
  refine ⟨frames, none, fun unframed => none.mpr ?_⟩
  rintro word ⟨before, inner, after, split, -, -⟩
  rw [split] at unframed
  simp at unframed

/-- The kind of a field is put between braces that the template has itself. -/
theorem placeholders_render_field :
    let template := "fill \x7bfield_\x7bkind\x7d\x7d: \x7btext\x7d"
    let parameters : Parameters := [("kind", some "user"), ("text", some "me & co")]
    (∀ name ∈ placeholders template, ∃ value, parameters.value? name = some value ∧
      '{' ∉ value.toList ∧ '}' ∉ value.toList) ∧
    placeholders (render template parameters) = ["field_user"] ∧
    Frames template parameters "field_user" := by
  intro template parameters
  have names : placeholders template = ["kind", "text"] := by decide +kernel
  have supplied : ∀ name ∈ placeholders template, ∃ value, parameters.value? name = some value ∧
      '{' ∉ value.toList ∧ '}' ∉ value.toList := by
    rw [names]
    simp [parameters, Parameters.value?, List.lookup_cons]
  have left : placeholders (render template parameters) = ["field_user"] := by decide +kernel
  exact ⟨supplied, left, ((placeholders_render supplied).1 "field_user").mp (by simp [left])⟩

/-- The only name of the template has a value, and it is left in the outer braces. -/
theorem placeholders_render_nested :
    let template := "\x7b\x7ba\x7d\x7d"
    let parameters : Parameters := [("a", some "a")]
    (∀ name ∈ placeholders template, ∃ value, parameters.value? name = some value ∧
      '{' ∉ value.toList ∧ '}' ∉ value.toList) ∧
    placeholders (render template parameters) = ["a"] := by
  intro template parameters
  have names : placeholders template = ["a"] := by decide +kernel
  refine ⟨?_, by decide +kernel⟩
  rw [names]
  simp [parameters, Parameters.value?]

end Template

end TextScenario
