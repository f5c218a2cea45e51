import TextScenario.Url

/-! What a segment of an address stands for. An escape stands for a byte and any other character for itself;
whatever is encoded stands for what it stood for before. -/

namespace TextScenario.Url

def startsEscaped : List Char → Bool
  | '%' :: high :: low :: _ => (byte? high low).isSome
  | _ => false

def hasEscape : List Char → Bool
  | [] => false
  | char :: rest => startsEscaped (char :: rest) || hasEscape rest

def utf8 (text : List Char) : List UInt8 :=
  text.flatMap String.utf8EncodeChar

theorem utf8_cons (char : Char) (rest : List Char) :
    utf8 (char :: rest) = String.utf8EncodeChar char ++ utf8 rest :=
  List.flatMap_cons

theorem toUTF8_eq (text : String) : text.toUTF8 = (utf8 text.toList).toByteArray := by
  rw [String.toUTF8_eq_toByteArray, ← String.utf8Encode_toList, List.utf8Encode, utf8]

variable {char high low : Char} {text rest : List Char} {byte : UInt8}

private theorem decode_escape (found : byte? high low = some byte) :
    decode ('%' :: high :: low :: rest) = byte :: decode rest := by
  simp only [decode, found]

theorem decode_cons (plain : startsEscaped (char :: rest) = false) :
    decode (char :: rest) = String.utf8EncodeChar char ++ decode rest := by
  rw [decode.eq_def]
  split
  next high low more same =>
    cases same
    split
    next byte found => simp [startsEscaped, found] at plain
    next => rfl
  next same =>
    cases same
    rfl
  next same => cases same

theorem decode_of_plain (plain : hasEscape text = false) : decode text = utf8 text := by
  induction text with
  | nil => rfl
  | cons char rest ih =>
    obtain ⟨start, later⟩ := Bool.or_eq_false_iff.mp plain
    rw [decode_cons start, ih later, utf8_cons]

theorem utf8_length_pos (char : Char) : 0 < (String.utf8EncodeChar char).length :=
  List.length_pos_iff.mpr String.utf8EncodeChar_ne_nil

theorem decode_length_le (text : List Char) : (decode text).length ≤ (utf8 text).length := by
  fun_induction decode text with
  | case1 high low rest byte found ih =>
    have first := utf8_length_pos '%'
    simp only [utf8_cons, List.length_append, List.length_cons]
    omega
  | case2 high low rest absent ih =>
    rw [utf8_cons, List.length_append, List.length_append]
    omega
  | case3 char rest _ ih =>
    rw [utf8_cons, List.length_append, List.length_append]
    omega
  | case4 => exact Nat.le_refl _

theorem decode_shorter (escape : hasEscape text = true) :
    (decode text).length < (utf8 text).length := by
  induction text with
  | nil => cases escape
  | cons char rest ih =>
    cases start : startsEscaped (char :: rest) with
    | false =>
      have later := ih (by simpa [hasEscape, start] using escape)
      rw [decode_cons start, utf8_cons, List.length_append, List.length_append]
      omega
    | true =>
      rw [startsEscaped.eq_def] at start
      split at start
      next high low more same =>
        cases same
        obtain ⟨byte, found⟩ := Option.isSome_iff_exists.mp start
        have within := decode_length_le more
        have first := utf8_length_pos '%'
        have second := utf8_length_pos high
        simp only [decode_escape found, utf8_cons, List.length_append, List.length_cons]
        omega
      next => cases start

private theorem hexDigit?_upperHex (value : Fin 16) : Text.hexDigit? (upperHex value) = some value.val := by
  revert value
  decide

private theorem byte?_upperHex (byte : UInt8) :
    byte? (upperHex (byte.toNat / 16)) (upperHex (byte.toNat % 16)) = some byte := by
  have bound : byte.toNat < 256 := byte.toNat_lt
  have high := hexDigit?_upperHex ⟨byte.toNat / 16, by omega⟩
  have low := hexDigit?_upperHex ⟨byte.toNat % 16, by omega⟩
  simp only at high low
  simp only [byte?, high, low, Option.bind_eq_bind, Option.bind_some]
  rw [Nat.div_add_mod, Nat.toUInt8_eq, UInt8.ofNat_toNat]

private theorem decode_percentEncoded (char : Char) (rest : List Char) :
    decode (percentEncoded char ++ rest) = String.utf8EncodeChar char ++ decode rest := by
  rw [percentEncoded]
  induction String.utf8EncodeChar char with
  | nil => rfl
  | cons byte bytes ih =>
    rw [List.flatMap_cons, List.append_assoc, List.cons_append, List.cons_append, List.cons_append,
      List.nil_append, decode_escape (byte?_upperHex byte), ih, List.cons_append]

def isEncoded (char : Char) : Bool :=
  isControlOrSpace char || char.toNat > 0x7E || pathReserved.contains char

theorem encode_cons (char : Char) (rest : List Char) :
    encode pathReserved (char :: rest) =
      (if isEncoded char then percentEncoded char else [char]) ++ encode pathReserved rest :=
  List.flatMap_cons

private theorem isEncoded_of_digit (digit : (Text.hexDigit? char).isSome = true) : isEncoded char = false := by
  have reserved : char ∉ pathReserved := by
    intro member
    simp only [pathReserved, List.mem_cons, List.not_mem_nil, or_false] at member
    rcases member with rfl | rfl | rfl | rfl | rfl | rfl | rfl | rfl <;> cases digit
  have printed : 0x20 < char.toNat ∧ char.toNat ≤ 0x7E := by
    rw [Text.hexDigit?] at digit
    simp only [Char.le_def, UInt32.le_iff_toNat_le] at digit
    split at digit
    next decimal =>
      have bounds : 48 ≤ char.toNat ∧ char.toNat ≤ 57 := by simpa using decimal
      omega
    split at digit
    next lower =>
      have bounds : 97 ≤ char.toNat ∧ char.toNat ≤ 102 := by simpa using lower
      omega
    split at digit
    next upper =>
      have bounds : 65 ≤ char.toNat ∧ char.toNat ≤ 70 := by simpa using upper
      omega
    next => cases digit
  simp [isEncoded, isControlOrSpace, reserved, printed]

theorem encode_plain (plain : '/' ∉ text) : '/' ∉ encode pathReserved text := by
  have undigit (value : Fin 16) : upperHex value ≠ '/' := by
    intro same
    have digit := hexDigit?_upperHex value
    rw [same] at digit
    cases digit
  intro inside
  obtain ⟨char, member, inside⟩ := List.mem_flatMap.mp inside
  split at inside
  next =>
    obtain ⟨byte, -, inside⟩ := List.mem_flatMap.mp inside
    have bound : byte.toNat < 256 := byte.toNat_lt
    simp only [List.mem_cons, List.not_mem_nil, or_false] at inside
    rcases inside with same | same | same
    · cases same
    · exact undigit ⟨byte.toNat / 16, by omega⟩ same.symm
    · exact undigit ⟨byte.toNat % 16, by omega⟩ same.symm
  next =>
    cases List.mem_singleton.mp inside
    exact plain member

private theorem percentEncoded_head (char : Char) : ∃ rest, percentEncoded char = '%' :: rest := by
  obtain ⟨byte, bytes, found⟩ := List.exists_cons_of_ne_nil (String.utf8EncodeChar_ne_nil (c := char))
  rw [percentEncoded, found]
  exact ⟨_, rfl⟩

/-- Text that is encoded does not come to start with digits. -/
theorem startsEscaped_encode (rest : List Char) :
    startsEscaped ('%' :: encode pathReserved rest) = startsEscaped ('%' :: rest) := by
  have digitless {first second : Char} (none : Text.hexDigit? first = none ∨ Text.hexDigit? second = none) :
      (byte? first second).isSome = false := by
    rcases none with none | none <;> simp [byte?, none]
  have undigit {char : Char} (encoded : isEncoded char = true) : Text.hexDigit? char = none := by
    apply Option.not_isSome_iff_eq_none.mp
    intro digit
    rw [isEncoded_of_digit digit] at encoded
    cases encoded
  cases rest with
  | nil => rfl
  | cons first rest =>
    rw [encode_cons]
    cases firstEncoded : isEncoded first with
    | true =>
      obtain ⟨more, head⟩ := percentEncoded_head first
      rw [if_pos rfl, head, List.cons_append]
      cases rest <;> cases more ++ encode pathReserved _ <;>
        simp [startsEscaped, digitless, undigit firstEncoded, show Text.hexDigit? '%' = none by decide]
    | false =>
      rw [if_neg (by simp), List.singleton_append]
      cases rest with
      | nil => rfl
      | cons second rest =>
        rw [encode_cons]
        cases secondEncoded : isEncoded second with
        | true =>
          obtain ⟨more, head⟩ := percentEncoded_head second
          rw [if_pos rfl, head, List.cons_append]
          simp [startsEscaped, digitless, undigit secondEncoded, show Text.hexDigit? '%' = none by decide]
        | false => rfl

/-- A segment stands for the same before and after it is encoded. -/
theorem decode_encode (text : List Char) : decode (encode pathReserved text) = decode text := by
  have next {char : Char} {rest : List Char} (plain : startsEscaped (char :: rest) = false)
      (same : decode (encode pathReserved rest) = decode rest) :
      decode (encode pathReserved (char :: rest)) = String.utf8EncodeChar char ++ decode rest := by
    rw [encode_cons]
    split
    · rw [decode_percentEncoded, same]
    · rw [List.singleton_append, decode_cons, same]
      by_cases percent : char = '%'
      · subst percent
        rw [startsEscaped_encode, plain]
      · rw [startsEscaped.eq_def]
        split
        next equal => exact absurd (List.cons.inj equal).1 percent
        next => rfl
  fun_induction decode text with
  | case1 high low rest byte found ih =>
    obtain ⟨highDigit, lowDigit⟩ : (Text.hexDigit? high).isSome = true ∧ (Text.hexDigit? low).isSome = true := by
      cases first : Text.hexDigit? high <;> cases second : Text.hexDigit? low <;> simp [byte?, first, second] at found ⊢
    rw [encode_cons, encode_cons, encode_cons, isEncoded_of_digit highDigit, isEncoded_of_digit lowDigit]
    simp only [show isEncoded '%' = false by decide, Bool.false_eq_true, if_false, List.singleton_append]
    rw [decode_escape found, ih]
  | case2 high low rest absent ih => exact next (by simp [startsEscaped, absent]) ih
  | case3 char rest apart ih =>
    refine next ?_ ih
    rw [startsEscaped.eq_def]
    split
    next high low more equal =>
      obtain ⟨percent, same⟩ := List.cons.inj equal
      exact absurd same (apart high low more percent)
    next => rfl
  | case4 => rfl

end TextScenario.Url
