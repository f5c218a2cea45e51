import TextScenario.Text.Case

/-! Texts in lower case. What a text becomes depends on what stands before and after it; an end in ASCII
becomes the same everywhere, and no separator comes out of other characters. -/

namespace TextScenario.Text

theorem lowerAfter_append (before first second : List Char) :
    ∃ front, lowerAfter before (first ++ second) =
      front ++ lowerAfter (first.reverse ++ before) second := by
  induction first generalizing before with
  | nil => exact ⟨[], rfl⟩
  | cons char first ih =>
    obtain ⟨front, same⟩ := ih (char :: before)
    rw [List.cons_append, lowerAfter, same, ← List.append_assoc, List.reverse_cons,
      List.append_assoc first.reverse, List.singleton_append]
    exact ⟨_, rfl⟩

private theorem lowerAfter_ascii (before : List Char) {text : List Char}
    (ascii : ∀ char ∈ text, char.toNat < 128) : lowerAfter before text = text.map Char.toLower := by
  induction text generalizing before with
  | nil => rfl
  | cons char text ih =>
    obtain ⟨here, later⟩ := List.forall_mem_cons.mp ascii
    have lowered : lowerChar char = [char.toLower] := by rw [lowerChar, if_pos here]
    have other : char.toNat ≠ 0x3A3 := by omega
    simp only [lowerAfter, if_neg other, lowered, ih _ later]
    rfl

theorem lower_ended (stem : List Char) {ending : List Char}
    (ascii : ∀ char ∈ ending, char.toNat < 128) :
    ∃ front, lower (stem ++ ending) = front ++ ending.map Char.toLower := by
  obtain ⟨front, same⟩ := lowerAfter_append [] stem ending
  rw [lowerAfter_ascii _ ascii] at same
  exact ⟨front, same⟩

def firstTarget (word : List Char) : Nat :=
  hexValue ((splitPair ':' word).2.getD [])

private theorem CodeMap.mem_ofLines {lines : List String} {entry : Nat × Nat}
    (member : entry ∈ (CodeMap.ofLines lines).entries) :
    ∃ word ∈ wordsOf lines, firstTarget word ≤ entry.2 := by
  obtain ⟨word, listed, inside⟩ := Array.mem_flatMap.mp member
  refine ⟨word, listed, ?_⟩
  rw [firstTarget]
  generalize splitPair ':' word = parts at inside ⊢
  obtain ⟨sources, target⟩ := parts
  dsimp only at inside ⊢
  split at inside
  · simp only [List.mem_toArray, List.mem_singleton] at inside
    cases inside
    exact Nat.le_refl _
  · obtain ⟨index, -, rfl⟩ := Array.mem_map.mp inside
    exact Nat.le_add_right _ _

private theorem CodeMap.get?_mem {map : CodeMap} {char other : Char} (found : map.get? char = some other) :
    ∃ entry ∈ map.entries, other = Char.ofNat entry.2 := by
  rw [CodeMap.get?] at found
  split at found
  next source target listed =>
    split at found
    · cases found
      exact ⟨(source, target), Array.mem_of_getElem? listed, rfl⟩
    · cases found
  next => cases found

/-- The characters of lines, found without decoding any. -/
inductive Spelled : List String → List (List Char) → Prop
  | nil : Spelled [] []
  | cons {text lines texts} (later : Spelled lines texts) :
      Spelled (String.ofList text :: lines) (text :: texts)

private theorem wordsOf_spelled {lines : List String} {texts : List (List Char)}
    (spelled : Spelled lines texts) :
    wordsOf lines =
      (texts.flatMap fun text => (splitWhere (· == ' ') text).filter (!·.isEmpty)).toArray := by
  rw [wordsOf]
  congr 1
  induction spelled with
  | nil => rfl
  | cons _ ih => rw [List.flatMap_cons, List.flatMap_cons, ih, String.toList_ofList]

private theorem lowerMap_target {char other : Char} (found : lowerMap.get? char = some other) :
    other ≠ '/' := by
  obtain ⟨lines, same, texts, spelled, late⟩ : ∃ lines, lowerMap = CodeMap.ofLines lines ∧
      ∃ texts, Spelled lines texts ∧
        texts.all (fun text => ((splitWhere (· == ' ') text).filter (!·.isEmpty)).all
          fun word => decide ('/'.toNat < firstTarget word)) = true := by
    refine ⟨_, rfl, ?_⟩
    apply Exists.intro
    constructor
    · repeat first | exact .nil | apply Spelled.cons
    · decide +kernel
  obtain ⟨entry, member, rfl⟩ := CodeMap.get?_mem found
  rw [same] at member
  obtain ⟨word, listed, least⟩ := CodeMap.mem_ofLines member
  have later : '/'.toNat < firstTarget word := by
    rw [wordsOf_spelled spelled] at listed
    obtain ⟨text, spelt, inside⟩ := List.mem_flatMap.mp (List.mem_toArray.mp listed)
    simpa using List.all_eq_true.mp (List.all_eq_true.mp late text spelt) word inside
  rw [Char.ofNat]
  by_cases valid : entry.2.isValidChar
  · rw [dif_pos valid]
    intro slash
    have code : entry.2 = '/'.toNat := congrArg Char.toNat slash
    omega
  · rw [dif_neg valid]
    exact fun slash => absurd slash (by decide)

private theorem lowerChar_plain {char : Char} (plain : char ≠ '/') : '/' ∉ lowerChar char := by
  rw [lowerChar]
  split
  next ascii =>
    intro member
    have same := List.mem_singleton.mp member
    have kept : ∀ code < 128, '/' = (Char.ofNat code).toLower → Char.ofNat code = '/' := by decide
    have slash := kept char.toNat ascii
    rw [Char.ofNat_toNat] at slash
    exact plain (slash same)
  split
  next => decide
  next =>
    intro member
    have same := List.mem_singleton.mp member
    cases found : lowerMap.get? char with
    | none =>
      rw [found] at same
      exact plain same.symm
    | some other =>
      rw [found] at same
      exact lowerMap_target found same.symm

/-- A text without separators has none in lower case. -/
theorem lowerAfter_plain (before : List Char) {text : List Char} (plain : '/' ∉ text) :
    '/' ∉ lowerAfter before text := by
  induction text generalizing before with
  | nil => exact plain
  | cons char text ih =>
    obtain ⟨here, later⟩ := not_or.mp (mt List.mem_cons.mpr plain)
    rw [lowerAfter, List.mem_append, not_or]
    refine ⟨?_, ih _ later⟩
    split
    · split
      · decide
      · decide
    · exact lowerChar_plain (Ne.symm here)

end TextScenario.Text
