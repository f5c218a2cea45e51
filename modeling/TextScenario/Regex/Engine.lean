import TextScenario.Regex.Size
/-!
What is left to the engine that carries expressions out: sets of characters that only it has a name for,
and how large an expression may be.
-/

namespace TextScenario.Regex

/-- An engine takes the parts of what it takes, and does not mind the numbers of groups. -/
class Engine where
  /-- The set of a property, such as `math`. -/
  named? : String → Option CharSet
  /-- The set of the characters for which a property has a value, such as `age` the value `v6.0`. -/
  valued? : String → String → Option CharSet
  takes : Regex → Bool
  takes_left : ∀ {left right}, takes (.concat left right) = true → takes left = true
  takes_right : ∀ {left right}, takes (.concat left right) = true → takes right = true
  takes_inner : ∀ {index name inner}, takes (.group index name inner) = true → takes inner = true
  takes_shape : ∀ regex, takes regex.shape = takes regex

def isSmall (regex : Regex) : Bool :=
  regex.weight ≤ greatestWeight

theorem isSmall_concat {left right : Regex} (small : isSmall (.concat left right) = true) :
    isSmall left = true ∧ isSmall right = true := by
  have whole : weight (.concat left right) ≤ greatestWeight := of_decide_eq_true small
  rw [weight] at whole
  exact ⟨decide_eq_true (by omega), decide_eq_true (by omega)⟩

theorem isSmall_inner {index : Nat} {name : Option String} {inner : Regex}
    (small : isSmall (.group index name inner) = true) : isSmall inner = true := by
  have whole : weight (.group index name inner) ≤ greatestWeight := of_decide_eq_true small
  rw [weight] at whole
  exact decide_eq_true (by omega)

theorem isSmall_shape (regex : Regex) : isSmall regex.shape = isSmall regex := by
  rw [isSmall, weight_shape, isSmall]

/-- The program is run with this engine. It has no further names, and estimates how large an expression is. -/
instance standard : Engine where
  named? _ := none
  valued? _ _ := none
  takes := isSmall
  takes_left small := (isSmall_concat small).1
  takes_right small := (isSmall_concat small).2
  takes_inner := isSmall_inner
  takes_shape := isSmall_shape

end TextScenario.Regex
