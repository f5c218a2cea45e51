import TextScenario.Json.Printer
import TextScenario.Proofs.JsonGrammar

/-! What is printed as JSON is written as the grammar has it, whatever the value, and so it can be told
from words. -/

namespace TextScenario

open Json.Grammar

private theorem digits_toString (value : Nat) : Digits (toString value).toList := by
  rw [Nat.toString_eq_repr, Nat.toList_repr]
  refine ⟨Nat.toDigits_ne_nil, fun char member => ?_⟩
  exact Nat.isDigit_of_mem_toDigits (by omega) (by omega) member

private theorem head_toString {value : Nat} (positive : 0 < value) :
    (toString value).toList.head? ≠ some '0' := by
  rw [Nat.toString_eq_repr, Nat.toList_repr]
  induction value using Nat.strongRecOn with
  | ind value ih =>
    rw [Nat.toDigits_eq_if (by omega)]
    split
    next => simp; omega
    next =>
      have before := ih (value / 10) (by omega) (by omega)
      obtain ⟨first, rest, written⟩ :=
        List.exists_cons_of_ne_nil (Nat.toDigits_ne_nil (n := value / 10) (b := 10))
      rw [written] at before ⊢
      exact before

namespace Json.Grammar

variable {text start more : List Char}

private theorem Digits.append (before : Digits start) (after : ∀ char ∈ more, char.isDigit = true) :
    Digits (start ++ more) := by
  refine ⟨by simp [before.1], fun char member => ?_⟩
  rcases List.mem_append.mp member with inside | inside
  · exact before.2 char inside
  · exact after char inside

private theorem Digits.prepend (before : ∀ char ∈ start, char.isDigit = true) (after : Digits more) :
    Digits (start ++ more) := by
  refine ⟨by simp [after.1], fun char member => ?_⟩
  rcases List.mem_append.mp member with inside | inside
  · exact before char inside
  · exact after.2 char inside

private theorem Digits.take (digits : Digits text) {count : Nat} (some : 0 < count) :
    Digits (text.take count) := by
  refine ⟨?_, fun char member => digits.2 char (List.mem_of_mem_take member)⟩
  have filled := List.length_pos_iff.mpr digits.1
  rw [← List.length_pos_iff, List.length_take]
  omega

private theorem Digits.drop (digits : Digits text) {count : Nat} (more : count < text.length) :
    Digits (text.drop count) := by
  refine ⟨?_, fun char member => digits.2 char (List.mem_of_mem_drop member)⟩
  rw [← List.length_pos_iff, List.length_drop]
  omega

private theorem Digits.zero : Digits ['0'] := by
  refine ⟨by simp, fun char member => ?_⟩
  rw [List.mem_singleton.mp member]
  rfl

private theorem Whole.zero : Whole ['0'] :=
  ⟨.zero, fun _ => rfl⟩

private theorem Digits.whole (digits : Digits text) (leading : text.head? ≠ some '0') : Whole text :=
  ⟨digits, fun zero => absurd zero leading⟩

private theorem Digits.single (digits : Digits text) : Whole (text.take 1) := by
  refine ⟨digits.take Nat.one_pos, fun zero => ?_⟩
  cases text with
  | nil => cases zero
  | cons char rest => simpa using zero

end Json.Grammar

private theorem whole_toString (value : Nat) : Whole (toString value).toList := by
  refine ⟨digits_toString value, fun zero => ?_⟩
  rcases Nat.eq_zero_or_pos value with rfl | positive
  · rfl
  · exact absurd zero (head_toString positive)

private theorem scalar_toString (value : Int) : Scalar (toString value).toList := by
  have magnitude (value : Nat) : Magnitude (toString value).toList := by
    simpa using Magnitude.intro (whole_toString value) .none .none
  cases value with
  | ofNat value => exact .positive (magnitude value)
  | negSucc value =>
    have written : (toString (Int.negSucc value)).toList = '-' :: (toString (value + 1)).toList := by
      simp [Int.toString_eq_repr, Int.repr_eq_if]
    rw [written]
    exact .negative (magnitude (value + 1))

namespace Decimal

/-- A decimal with a digit other than zero; only one that is less than one may have none. -/
def Leading (decimal : Decimal) : Prop :=
  0 < decimal.digits ∨ decimal.exponent < 0

private theorem zeros_digits (count : Nat) : ∀ char ∈ (zeros count).toList, char.isDigit = true := by
  intro char member
  rw [zeros, String.toList_ofList] at member
  rw [List.eq_of_mem_replicate member]
  rfl

private theorem exponent_text (signed : Bool) (power : Int) :
    Exponent ((if power < 0 then "e-" else if signed then "e+" else "e") ++ toString power.natAbs).toList := by
  have scaled (sign : List Char) (known : sign ∈ [[], ['+'], ['-']]) {digits : List Char}
      (power : Digits digits) : Exponent ('e' :: (sign ++ digits)) :=
    .some (.inl rfl) known power
  have digits := digits_toString power.natAbs
  generalize toString power.natAbs = text at *
  split
  · simpa using scaled ['-'] (by simp) digits
  split
  · simpa using scaled ['+'] (by simp) digits
  · simpa using scaled [] (by simp) digits

private theorem fraction_rest {text : String} (digits : Digits text.toList) :
    Fraction (if (String.ofList (text.toList.drop 1)).isEmpty then "" else
      "." ++ String.ofList (text.toList.drop 1)).toList := by
  split
  next => exact .none
  next more =>
    have some : 1 < text.toList.length := by
      have left : text.toList.drop 1 ≠ [] := by simpa using more
      exact Nat.lt_of_not_le fun short => left (List.drop_eq_nil_of_le short)
    simpa using Fraction.some (digits.drop some)

/-- The text of a decimal is a number. -/
theorem Layout.text_magnitude (layout : Layout) {decimal : Decimal} (written : decimal.Leading) :
    Magnitude (layout.text decimal).toList := by
  have digits := digits_toString decimal.digits
  have length : (toString decimal.digits).toList.length = (toString decimal.digits).length :=
    String.length_toList
  have leading : 0 < decimal.digits → (toString decimal.digits).toList.head? ≠ some '0' :=
    head_toString
  have one : decimal.digits = 0 → (toString decimal.digits).length = 1 := by
    intro zero
    rw [zero]
    rfl
  rw [Layout.text]
  generalize toString decimal.digits = text at *
  dsimp only
  split
  next scientific =>
    have exponent := exponent_text layout.signed (decimal.exponent + text.length - 1)
    have fraction := fraction_rest digits
    simpa using Magnitude.intro digits.single fraction exponent
  next ordinary =>
  split
  next above =>
    have positive : 0 < decimal.digits := by
      rcases written with some | small
      · exact some
      · omega
    have more : Digits (text.toList ++ (zeros decimal.exponent.toNat).toList) :=
      digits.append (zeros_digits _)
    have first : (text.toList ++ (zeros decimal.exponent.toNat).toList).head? ≠ some '0' := by
      obtain ⟨char, rest, found⟩ := List.exists_cons_of_ne_nil digits.1
      rw [found] at leading ⊢
      exact leading positive
    simpa using Magnitude.intro (more.whole first) (.some .zero) .none
  split
  next inside =>
    have positive : 0 < decimal.digits := by
      rcases Nat.eq_zero_or_pos decimal.digits with zero | some
      · have single := one zero
        omega
      · exact some
    generalize cut : (decimal.exponent + text.length - 1 + 1).toNat = count
    have whole : Whole (text.toList.take count) := by
      refine (digits.take (by omega)).whole ?_
      rw [List.head?_take, if_neg (by omega)]
      exact leading positive
    have fraction : Fraction ('.' :: text.toList.drop count) := .some (digits.drop (by omega))
    simpa using Magnitude.intro whole fraction .none
  next =>
    have fraction := Fraction.some
      (Digits.prepend (zeros_digits (-(decimal.exponent + text.length - 1) - 1).toNat) digits)
    simpa using Magnitude.intro Whole.zero fraction .none

private theorem Target.admits_positive {target : Target} {candidate : Decimal} (above : 0 < target.below)
    (admitted : target.admits candidate = true) : 0 < candidate.digits := by
  apply Nat.pos_of_ne_zero
  intro zero
  have scale : 0 < 10 ^ (-candidate.exponent).toNat := Nat.pow_pos (by omega)
  have least : 0 < target.below * 10 ^ (-candidate.exponent).toNat := Nat.mul_pos above scale
  rw [Target.admits] at admitted
  simp only [zero, Nat.zero_mul] at admitted
  split at admitted
  · simp at admitted
    omega
  · simp at admitted

private theorem Target.magnitude_le (target : Target) (fuel : Nat) (guess : Int) :
    target.magnitude fuel guess = guess ∨
      Nat.pow 10 (target.magnitude fuel guess).toNat * target.denominator ≤
        target.numerator * Nat.pow 10 (-target.magnitude fuel guess).toNat := by
  induction fuel generalizing guess with
  | zero => exact .inl rfl
  | succ fuel ih =>
    rw [Target.magnitude]
    split
    next least =>
      rcases ih (guess + 1) with same | further
      · rw [same]
        exact .inr least
      · exact .inr further
    next => exact .inl rfl

private theorem Target.shortestFrom_leading {target : Target} {magnitude : Int} (above : 0 < target.below)
    (positive : 0 < target.denominator)
    (least : magnitude < 0 ∨ Nat.pow 10 magnitude.toNat * target.denominator ≤ target.numerator)
    (fuel digits : Nat) : (target.shortestFrom magnitude fuel digits).Leading := by
  induction fuel generalizing digits with
  | zero =>
    rcases least with small | least
    · exact .inr small
    · refine .inl (Nat.div_pos ?_ positive)
      have power (count : Nat) : 0 < Nat.pow 10 count := Nat.pow_pos (by omega)
      calc target.denominator
        _ ≤ Nat.pow 10 magnitude.toNat * target.denominator := Nat.le_mul_of_pos_left _ (power _)
        _ ≤ target.numerator := least
        _ ≤ target.numerator * Nat.pow 10 (digits - 1 : Int).toNat :=
          Nat.le_mul_of_pos_right _ (power _)
  | succ fuel ih =>
    rw [Target.shortestFrom]
    split
    next found => exact .inl (admits_positive above (List.find?_some found))
    next => exact ih (digits + 1)

private theorem normal_leading {decimal : Decimal} (leading : decimal.Leading) (fuel : Nat) :
    (decimal.normal fuel).Leading := by
  induction fuel generalizing decimal with
  | zero => exact leading
  | succ fuel ih =>
    rw [normal]
    split
    next ended => exact ih (.inl (show 0 < decimal.digits / 10 by omega))
    next => exact leading

private theorem shortest_leading {mantissa : Nat} (positive : 0 < mantissa) (power : Int)
    (narrowBelow : Bool) : (shortest mantissa power narrowBelow).Leading := by
  rw [shortest]
  apply normal_leading
  have scale (count : Nat) : 0 < Nat.pow 2 count := Nat.pow_pos (by omega)
  have above : 0 < (Target.ofBinary mantissa power narrowBelow).below := by
    refine Nat.mul_pos ?_ (scale _)
    split <;> omega
  have denominator : 0 < (Target.ofBinary mantissa power narrowBelow).denominator :=
    Nat.mul_pos (by omega) (scale _)
  generalize Target.ofBinary mantissa power narrowBelow = target at *
  apply Target.shortestFrom_leading above denominator
  rcases target.magnitude_le 640 (-330) with same | least
  · rw [same]
    exact .inl (by omega)
  · generalize target.magnitude 640 (-330) = magnitude at *
    by_cases small : magnitude < 0
    · exact .inl small
    · right
      rw [show (-magnitude).toNat = 0 by omega] at least
      simpa using least

private theorem Layout.textOfBits_scalar (layout : Layout) (bits : UInt64) :
    Scalar (layout.textOfBits bits).toList := by
  have signed {text : String} (written : Magnitude text.toList) :
      Scalar ((if bits.toNat / 0x8000000000000000 = 1 then "-" else "") ++ text).toList := by
    split
    · simpa using Scalar.negative written
    · simpa using Scalar.positive written
  rw [Layout.textOfBits]
  split
  next => exact signed (by simpa using Magnitude.intro Whole.zero (.some .zero) .none)
  next some =>
    apply signed
    apply text_magnitude
    apply shortest_leading
    split <;> omega

end Decimal

namespace Json

private theorem doubleText_scalar (value : Float) : Scalar (doubleText value).toList := by
  rw [doubleText]
  split
  · exact doubleLayout.textOfBits_scalar _
  · exact .word (by simp)

private theorem hexDigit?_hexChar {value : Nat} (small : value < 16) :
    (Text.hexDigit? (hexChar value)).isSome = true := by
  have all : ∀ value < 16, (Text.hexDigit? (hexChar value)).isSome = true := by decide
  exact all value small

private theorem characters_escaped (char : Char) {rest : List Char} (later : Characters rest) :
    Characters (escapeChar char ++ rest) := by
  unfold escapeChar
  split
  case h_6 notQuote notSlash _ _ _ =>
    dsimp only
    split
    · exact .escape (by simp) later
    split
    · exact .escape (by simp) later
    split
    next control =>
      have high : (Text.hexDigit? (hexChar (char.toNat / 16))).isSome = true :=
        hexDigit?_hexChar (by omega)
      have low : (Text.hexDigit? (hexChar (char.toNat % 16))).isSome = true :=
        hexDigit?_hexChar (by omega)
      have zero : (Text.hexDigit? '0').isSome = true := rfl
      refine Characters.unicode (rfl : ['0', '0', _, _].length = 4) ?_ later
      simp [high, low, zero]
    next shown => exact .plain (by omega) notQuote notSlash later
  all_goals exact .escape (by simp) later

theorem characters_written (text : String) : Characters (text.toList.flatMap escapeChar) := by
  induction text.toList with
  | nil => exact .nil
  | cons char rest ih => exact characters_escaped char ih

private theorem quoted_written (text : String) : Quoted (quoted text).toList := by
  simpa [quoted] using Quoted.intro (characters_written text)

theorem Grammar.Elements.cons {text items : List Char} (element : Element text) :
    Elements items → Elements (text ++ ',' :: items)
  | .one written => .more (.one element) written
  | .more earlier written => by
    have before := Elements.cons element earlier
    simpa using Elements.more before written

theorem Grammar.Members.cons {text fields : List Char} (member : Member text) :
    Members fields → Members (text ++ ',' :: fields)
  | .one written => .more (.one member) written
  | .more earlier written => by
    have before := Members.cons member earlier
    simpa using Members.more before written

private theorem newline_blank (level : Nat) : Blank (newline level).toList := by
  intro char member
  simp only [newline, String.toList_append, String.toList_ofList, List.mem_append] at member
  rcases member with line | space
  · simp [show char = '\n' by simpa using line]
  · simp [List.eq_of_mem_replicate space]

private theorem Grammar.Member.padded {before text after : List Char} (leading : Blank before)
    (member : Member text) (trailing : Blank after) : Member (before ++ text ++ after) := by
  obtain ⟨start, named, between, written⟩ := member
  simpa using Member.intro (leading.append start) named between (written.space trailing)

/-- Pieces with a comma and a line break between neighbours are many, if one is. -/
theorem joined_many (one many : List Char → Prop) (single : ∀ {text}, one text → many text)
    (cons : ∀ {text items}, one text → many items → many (text ++ ',' :: items))
    (line last : String) {first : String} {rest : List String}
    (between : ∀ piece ∈ first :: rest, one (line.toList ++ piece.toList ++ []))
    (ending : ∀ piece ∈ first :: rest, one (line.toList ++ piece.toList ++ last.toList)) :
    many (line ++ joined ("," ++ line) (first :: rest) ++ last).toList := by
  induction rest generalizing first with
  | nil => simpa [joined] using single (ending first (.head _))
  | cons second rest ih =>
    have others := ih (fun piece member => between piece (.tail _ member))
      fun piece member => ending piece (.tail _ member)
    simpa [joined] using cons (between first (.head _)) others

private theorem joined_elements (level : Nat) {first : String} {rest : List String}
    (written : ∀ piece ∈ first :: rest, Value piece.toList) :
    Elements (newline (level + 1) ++ joined ("," ++ newline (level + 1)) (first :: rest) ++
      newline level).toList := by
  have blank := newline_blank (level + 1)
  apply joined_many Element Elements .one .cons
  · intro piece member
    exact .intro blank (written piece member) .nil
  · intro piece member
    exact .intro blank (written piece member) (newline_blank level)

private theorem joined_members (level : Nat) {first : String} {rest : List String}
    (written : ∀ piece ∈ first :: rest, Member piece.toList) :
    Members (newline (level + 1) ++ joined ("," ++ newline (level + 1)) (first :: rest) ++
      newline level).toList := by
  have blank := newline_blank (level + 1)
  apply joined_many Member Members .one .cons
  · intro piece member
    exact .padded blank (written piece member) .nil
  · intro piece member
    exact .padded blank (written piece member) (newline_blank level)

mutual

private theorem indented_value (level : Nat) : ∀ json : Json, Value (indented level json).toList
  | .null => .scalar (.word (show "null" ∈ _ by simp))
  | .bool true => .scalar (.word (show "true" ∈ _ by simp))
  | .bool false => .scalar (.word (show "false" ∈ _ by simp))
  | .integer value => .scalar (scalar_toString value)
  | .double value => .scalar (doubleText_scalar value)
  | .text value => .text (quoted_written value)
  | .array [] => by simpa [indented] using Value.emptyArray .nil
  | .array (first :: rest) => by
    have items := joined_elements level (indentedItems_value (level + 1) (first :: rest))
    simpa [indented, indentedItems] using Value.array items
  | .object [] => by simpa [indented] using Value.emptyObject .nil
  | .object (first :: rest) => by
    have fields := joined_members level (indentedFields_member (level + 1) (first :: rest))
    simpa [indented, indentedFields] using Value.object fields

theorem indentedItems_value (level : Nat) :
    ∀ items : List Json, ∀ piece ∈ indentedItems level items, Value piece.toList
  | [] => nofun
  | item :: rest => by
    intro piece member
    rcases List.mem_cons.mp member with rfl | later
    · exact indented_value level item
    · exact indentedItems_value level rest piece later

theorem indentedFields_member (level : Nat) :
    ∀ fields : List (String × Json), ∀ piece ∈ indentedFields level fields, Member piece.toList
  | [] => nofun
  | (name, value) :: rest => by
    intro piece member
    rcases List.mem_cons.mp member with rfl | later
    · have space : Blank [' '] := blank_of_isSpace rfl
      have element := Element.intro space (indented_value level value) .nil
      simpa using Member.intro .nil (quoted_written name) .nil element
    · exact indentedFields_member level rest piece later

end

/-- A printed document is one element. -/
theorem pretty_element (json : Json) : Element (json.pretty ++ "\n").toList := by
  have ended : Blank ['\n'] := blank_of_isSpace rfl
  simpa [pretty] using Element.intro .nil (indented_value 0 json) ended

private theorem Grammar.Value.head {text : List Char} (value : Value text) :
    ∃ char rest, text = char :: rest ∧
      (char ∈ ['[', '{', '"', '-', 't', 'f', 'n'] ∨ char.isDigit = true) := by
  have number {text : List Char} (written : Magnitude text) :
      ∃ char rest, text = char :: rest ∧ char.isDigit = true := by
    obtain ⟨whole, fraction, exponent⟩ := written
    obtain ⟨char, rest, rfl⟩ := List.exists_cons_of_ne_nil whole.1.1
    exact ⟨char, _, rfl, whole.1.2 char (.head _)⟩
  cases value with
  | scalar scalar =>
    cases scalar with
    | word known =>
      simp only [List.mem_cons, List.not_mem_nil, or_false] at known
      rcases known with rfl | rfl | rfl
      · exact ⟨'t', "rue".toList, rfl, by simp⟩
      · exact ⟨'f', "alse".toList, rfl, by simp⟩
      · exact ⟨'n', "ull".toList, rfl, by simp⟩
    | positive written =>
      obtain ⟨char, rest, rfl, digit⟩ := number written
      exact ⟨char, rest, rfl, .inr digit⟩
    | negative => exact ⟨_, _, rfl, by simp⟩
  | text quoted =>
    cases quoted
    exact ⟨_, _, rfl, by simp⟩
  | emptyArray | array | emptyObject | object => exact ⟨_, _, rfl, by simp⟩

theorem not_element {char : Char} {text : List Char} (letter : char.isDigit = false)
    (other : char ∉ [' ', '\t', '\n', '\r', '[', '{', '"', '-', 't', 'f', 'n']) :
    ¬ Element (char :: text) := by
  intro element
  generalize whole : char :: text = document at element
  obtain ⟨leading, written, trailing⟩ := element
  rename_i before value after
  cases before with
  | nil =>
    obtain ⟨first, rest, rfl, start⟩ := written.head
    cases whole
    rcases start with known | digit
    · exact other (by simp_all)
    · rw [letter] at digit
      cases digit
  | cons first rest =>
    cases whole
    have blank := leading char (.head _)
    exact other (by simp_all)

end Json

end TextScenario
