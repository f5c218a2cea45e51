import TextScenario.Json.Bytes

/-! The grammar of JSON, and that nothing else is read. What the reader has seen of a text up to a state
is told by the grammar: every open container begins where a value may stand, and what is complete in it
was written as the grammar has it. -/

namespace TextScenario.Json

namespace Grammar

def Blank (text : List Char) : Prop :=
  ∀ char ∈ text, char ∈ [' ', '\t', '\n', '\r']

def Digits (text : List Char) : Prop :=
  text ≠ [] ∧ ∀ char ∈ text, char.isDigit = true

inductive Fraction : List Char → Prop
  | none : Fraction []
  | some {digits} (written : Digits digits) : Fraction ('.' :: digits)

inductive Exponent : List Char → Prop
  | none : Exponent []
  | some {mark sign digits} (marked : mark = 'e' ∨ mark = 'E') (signed : sign ∈ [[], ['+'], ['-']])
      (written : Digits digits) : Exponent (mark :: (sign ++ digits))

/-- The digits of a whole number. Only zero itself begins with a zero. -/
def Whole (text : List Char) : Prop :=
  Digits text ∧ (text.head? = some '0' → text = ['0'])

inductive Magnitude : List Char → Prop
  | intro {whole fraction exponent} (before : Whole whole) (after : Fraction fraction)
      (scaled : Exponent exponent) : Magnitude (whole ++ (fraction ++ exponent))

inductive Characters : List Char → Prop
  | nil : Characters []
  | plain {char rest} (shown : 0x20 ≤ char.toNat) (open_ : char ≠ '"') (unescaped : char ≠ '\\')
      (later : Characters rest) : Characters (char :: rest)
  | escape {code rest} (known : code ∈ ['"', '\\', '/', 'b', 'f', 'n', 'r', 't'])
      (later : Characters rest) : Characters ('\\' :: code :: rest)
  | unicode {digits rest} (four : digits.length = 4)
      (hexadecimal : ∀ digit ∈ digits, (Text.hexDigit? digit).isSome) (later : Characters rest) :
      Characters ('\\' :: 'u' :: (digits ++ rest))

inductive Quoted : List Char → Prop
  | intro {characters} (written : Characters characters) : Quoted ('"' :: (characters ++ ['"']))

inductive Scalar : List Char → Prop
  | word {name} (known : name ∈ ["true", "false", "null"]) : Scalar name.toList
  | positive {text} (written : Magnitude text) : Scalar text
  | negative {text} (written : Magnitude text) : Scalar ('-' :: text)

mutual

inductive Value : List Char → Prop
  | scalar {text} (written : Scalar text) : Value text
  | text {text} (written : Quoted text) : Value text
  | emptyArray {blank} (blanks : Blank blank) : Value ('[' :: (blank ++ [']']))
  | array {items} (written : Elements items) : Value ('[' :: (items ++ [']']))
  | emptyObject {blank} (blanks : Blank blank) : Value ('{' :: (blank ++ ['}']))
  | object {fields} (written : Members fields) : Value ('{' :: (fields ++ ['}']))

inductive Element : List Char → Prop
  | intro {before text after} (leading : Blank before) (written : Value text)
      (trailing : Blank after) : Element (before ++ text ++ after)

inductive Elements : List Char → Prop
  | one {text} (written : Element text) : Elements text
  | more {items text} (earlier : Elements items) (written : Element text) :
      Elements (items ++ ',' :: text)

inductive Member : List Char → Prop
  | intro {before name after text} (leading : Blank before) (named : Quoted name)
      (trailing : Blank after) (written : Element text) :
      Member (before ++ name ++ after ++ ':' :: text)

inductive Members : List Char → Prop
  | one {text} (written : Member text) : Members text
  | more {fields text} (earlier : Members fields) (written : Member text) :
      Members (fields ++ ',' :: text)

end

theorem Blank.append {first second : List Char} (before : Blank first) (after : Blank second) :
    Blank (first ++ second) := by
  intro char member
  rcases List.mem_append.mp member with inside | inside
  · exact before char inside
  · exact after char inside

theorem Blank.nil : Blank [] :=
  nofun

theorem blank_of_isSpace {char : Char} (space : isSpace char = true) : Blank [char] := by
  intro other member
  cases List.mem_singleton.mp member
  simpa [isSpace, or_assoc] using space

theorem Element.space {text blank : List Char} (element : Element text) (blanks : Blank blank) :
    Element (text ++ blank) := by
  obtain ⟨leading, written, trailing⟩ := element
  rw [List.append_assoc]
  exact .intro leading written (trailing.append blanks)

inductive Piece : Token → List Char → Prop
  | openArray : Piece .openArray ['[']
  | closeArray : Piece .closeArray [']']
  | openObject : Piece .openObject ['{']
  | closeObject : Piece .closeObject ['}']
  | comma : Piece .comma [',']
  | colon : Piece .colon [':']
  | text {value text} (written : Quoted text) : Piece (.text value) text
  | scalar {value text} (written : Scalar text) : Piece (.scalar value) text

end Grammar

open Grammar

private theorem fourHex?_some {text rest : List Char} {unit : Nat} (read : fourHex? text = some (unit, rest)) :
    ∃ digits, text = digits ++ rest ∧ digits.length = 4 ∧
      ∀ digit ∈ digits, (Text.hexDigit? digit).isSome := by
  unfold fourHex? at read
  split at read
  next a b c d rest =>
    simp only [Option.bind_eq_bind, Option.bind_eq_some_iff, Option.some.injEq, Prod.mk.injEq] at read
    obtain ⟨_, first, _, second, _, third, _, fourth, -, rfl⟩ := read
    exact ⟨[a, b, c, d], rfl, rfl, by simp [first, second, third, fourth]⟩
  next => cases read

private theorem readDigits?_some {text rest : List Char} {digits : List Nat}
    (read : readDigits? text = some (digits, rest)) :
    text = text.takeWhile Char.isDigit ++ rest ∧ Digits (text.takeWhile Char.isDigit) := by
  simp only [readDigits?] at read
  split at read
  · cases read
  next some =>
    cases read
    refine ⟨(List.prefix_iff_eq_append.mp (List.takeWhile_prefix _)).symm, by simpa using some, ?_⟩
    intro char member
    exact List.all_eq_true.mp List.all_takeWhile char member

private theorem readWhole?_some {text rest : List Char} {digits : List Nat}
    (read : readWhole? text = some (digits, rest)) :
    ∃ written, text = written ++ rest ∧ Whole written := by
  simp only [readWhole?] at read
  split at read
  · cases read
  next lead =>
    obtain ⟨whole, written⟩ := readDigits?_some read
    refine ⟨_, whole, written, ?_⟩
    intro zero
    cases taken : text.takeWhile Char.isDigit with
    | nil => exact absurd taken written.1
    | cons first further =>
      rw [taken] at lead zero
      cases further with
      | nil => simpa using zero
      | cons => simp [zero] at lead

private theorem readFraction?_some {text rest : List Char} {fraction : Option (List Nat)}
    (read : readFraction? text = some (fraction, rest)) :
    ∃ written, text = written ++ rest ∧ Fraction written := by
  unfold readFraction? at read
  split at read
  next after =>
    obtain ⟨⟨digits, further⟩, digitsRead, done⟩ := Option.map_eq_some_iff.mp read
    cases done
    obtain ⟨whole, written⟩ := readDigits?_some digitsRead
    exact ⟨'.' :: after.takeWhile Char.isDigit, congrArg _ whole, .some written⟩
  next =>
    cases read
    exact ⟨[], rfl, .none⟩

private theorem readDown_sign (text : List Char) :
    ∃ sign, text = sign ++ (readDown text).2 ∧ sign ∈ [[], ['+'], ['-']] := by
  unfold readDown
  split
  · exact ⟨['-'], rfl, by simp⟩
  · exact ⟨['+'], rfl, by simp⟩
  · exact ⟨[], rfl, by simp⟩

private theorem readExponent?_some {text rest : List Char} {exponent : Option (Bool × List Nat)}
    (read : readExponent? text = some (exponent, rest)) :
    ∃ written, text = written ++ rest ∧ Exponent written := by
  unfold readExponent? at read
  split at read
  next mark after =>
    split at read
    next marked =>
      obtain ⟨⟨digits, further⟩, digitsRead, done⟩ := Option.map_eq_some_iff.mp read
      cases done
      obtain ⟨sign, signed, known⟩ := readDown_sign after
      obtain ⟨whole, written⟩ := readDigits?_some digitsRead
      refine ⟨mark :: (sign ++ (readDown after).2.takeWhile Char.isDigit), ?_,
        .some marked known written⟩
      rw [List.cons_append, List.append_assoc, ← whole, ← signed]
    next =>
      cases read
      exact ⟨[], rfl, .none⟩
  next =>
    cases read
    exact ⟨[], rfl, .none⟩

private theorem readLiteral?_some {negative : Bool} {text rest : List Char} {literal : NumberLiteral}
    (read : readLiteral? negative text = some (literal, rest)) :
    ∃ written, text = written ++ rest ∧ Magnitude written := by
  simp only [readLiteral?, Option.bind_eq_bind, Option.bind_eq_some_iff] at read
  obtain ⟨⟨_, afterWhole⟩, wholeRead, ⟨_, afterFraction⟩, fractionRead, ⟨_, afterExponent⟩,
    exponentRead, done⟩ := read
  cases done
  obtain ⟨whole, rfl, before⟩ := readWhole?_some wholeRead
  obtain ⟨fraction, rfl, after⟩ := readFraction?_some fractionRead
  obtain ⟨exponent, rfl, scaled⟩ := readExponent?_some exponentRead
  exact ⟨whole ++ (fraction ++ exponent), by simp, .intro before after scaled⟩

/-- Strings and numbers are read only as the grammar has them. -/
structure Reading.Grammatical (reading : Reading) : Prop where
  text : ∀ {text rest value}, reading.text text = some (value, rest) →
    ∃ written, text = written ++ '"' :: rest ∧ Characters written
  number : ∀ {negative text rest value}, reading.number negative text = some (value, rest) →
    ∃ written, text = written ++ rest ∧ Magnitude written

private theorem cutText_some {fuel : Nat} {read text rest : List Char} {value : String}
    (done : cutText fuel read text = some (value, rest)) :
    ∃ written, text = written ++ '"' :: rest ∧ Characters written := by
  induction fuel generalizing read text with
  | zero => cases done
  | succ fuel ih =>
    cases text with
    | nil => cases done
    | cons char text =>
      rw [cutText.eq_def] at done
      dsimp only at done
      split at done
      next quote =>
        cases done
        exact ⟨[], by simp [quote], .nil⟩
      next open_ =>
      split at done
      next slash =>
        subst slash
        split at done
        next digits =>
          simp only [Option.bind_eq_bind, Option.bind_eq_some_iff] at done
          obtain ⟨⟨unit, after⟩, escaped, done⟩ := done
          obtain ⟨digits, rfl, four, hexadecimal⟩ := fourHex?_some escaped
          obtain ⟨written, rfl, characters⟩ := ih done
          exact ⟨'\\' :: 'u' :: (digits ++ written), by simp, .unicode four hexadecimal characters⟩
        next code rest _ =>
          split at done
          next known =>
            obtain ⟨written, rfl, characters⟩ := ih done
            exact ⟨'\\' :: code :: written, rfl, .escape (by simpa using known) characters⟩
          next => cases done
        next => cases done
      next unescaped =>
      split at done
      next => cases done
      next shown =>
        obtain ⟨written, rfl, characters⟩ := ih done
        exact ⟨char :: written, rfl, .plain (by omega) open_ unescaped characters⟩

theorem written_grammatical : Reading.written.Grammatical where
  text := cutText_some
  number read := by
    obtain ⟨⟨literal, after⟩, read, done⟩ := Option.map_eq_some_iff.mp read
    cases done
    exact readLiteral?_some read

variable {reading : Reading} (grammatical : reading.Grammatical)

private theorem stripped?_some {word : String} {text rest : List Char}
    (read : stripped? word text = some rest) : text = word.toList ++ rest := by
  rw [stripped?] at read
  split at read
  next same =>
    cases read
    rw [← same, List.take_append_drop]
  next => cases read

include grammatical in
private theorem readToken_some {char : Char} {text rest : List Char} {token : Token}
    (read : readToken reading char text = some (token, rest)) :
    ∃ piece, char :: text = piece ++ rest ∧ Piece token piece := by
  have word (name : String) {first : Char} {later : String} {value : Json}
      (known : name ∈ ["true", "false", "null"]) (same : name.toList = first :: later.toList)
      (read : (stripped? later text).map (Token.scalar value, ·) = some (token, rest)) :
      ∃ piece, first :: text = piece ++ rest ∧ Piece token piece := by
    obtain ⟨after, stripped, done⟩ := Option.map_eq_some_iff.mp read
    cases done
    refine ⟨name.toList, ?_, .scalar (.word known)⟩
    rw [same, stripped?_some stripped]
    rfl
  unfold readToken at read
  split at read
  · cases read
    exact ⟨['['], rfl, .openArray⟩
  · cases read
    exact ⟨[']'], rfl, .closeArray⟩
  · cases read
    exact ⟨['{'], rfl, .openObject⟩
  · cases read
    exact ⟨['}'], rfl, .closeObject⟩
  · cases read
    exact ⟨[','], rfl, .comma⟩
  · cases read
    exact ⟨[':'], rfl, .colon⟩
  · obtain ⟨⟨value, after⟩, quoted, done⟩ := Option.map_eq_some_iff.mp read
    cases done
    obtain ⟨written, rfl, characters⟩ := grammatical.text quoted
    exact ⟨'"' :: (written ++ ['"']), by simp, .text (.intro characters)⟩
  · exact word "true" (by simp) rfl read
  · exact word "false" (by simp) rfl read
  · exact word "null" (by simp) rfl read
  · obtain ⟨⟨value, after⟩, number, done⟩ := Option.map_eq_some_iff.mp read
    cases done
    obtain ⟨written, rfl, magnitude⟩ := grammatical.number number
    exact ⟨'-' :: written, rfl, .scalar (.negative magnitude)⟩
  · split at read
    · obtain ⟨⟨value, after⟩, number, done⟩ := Option.map_eq_some_iff.mp read
      cases done
      obtain ⟨written, whole, magnitude⟩ := grammatical.number number
      exact ⟨written, whole, .scalar (.positive magnitude)⟩
    · cases read

namespace Grammar

inductive Before (many : List Char → Prop) : List Char → Prop
  | first : Before many []
  | later {text} (written : many text) : Before many (text ++ [','])

private theorem Before.elements {items text : List Char} (before : Before Elements items)
    (element : Element text) : Elements (items ++ text) := by
  cases before with
  | first => exact .one element
  | later earlier => simpa using Elements.more earlier element

private theorem Before.members {fields text : List Char} (before : Before Members fields)
    (member : Member text) : Members (fields ++ text) := by
  cases before with
  | first => exact .one member
  | later earlier => simpa using Members.more earlier member

mutual

/-- The text before an element of the innermost open container. -/
inductive ToElement : List Frame → List Char → Prop
  | document : ToElement [] []
  | item {stack outer blank items read} (within : ToElement stack outer) (blanks : Blank blank)
      (before : Before Elements items) :
      ToElement (.array read :: stack) (outer ++ blank ++ '[' :: items)
  | field {stack text read name} (named : ToColon stack text) :
      ToElement (.object read name :: stack) (text ++ [':'])

/-- The text before a member of an open object. -/
inductive ToMember : List Frame → List Char → Prop
  | intro {stack outer blank fields} (within : ToElement stack outer) (blanks : Blank blank)
      (before : Before Members fields) : ToMember stack (outer ++ blank ++ '{' :: fields)

/-- The text before the colon of a member. -/
inductive ToColon : List Frame → List Char → Prop
  | intro {stack text leading name trailing} (within : ToMember stack text)
      (before : Blank leading) (named : Quoted name) (after : Blank trailing) :
      ToColon stack (text ++ leading ++ name ++ trailing)

end

/-- What the reader has seen when it comes to a state. -/
inductive Seen : State → List Char → Prop
  | beforeValue {stack text blank} (within : ToElement stack text) (blanks : Blank blank) :
      Seen (.beforeValue stack) (text ++ blank)
  | firstItem {stack text blank inner} (within : ToElement stack text) (blanks : Blank blank)
      (inside : Blank inner) : Seen (.firstItem stack) (text ++ blank ++ '[' :: inner)
  | firstName {stack text blank inner} (within : ToElement stack text) (blanks : Blank blank)
      (inside : Blank inner) : Seen (.firstName stack) (text ++ blank ++ '{' :: inner)
  | nextName {stack text blank fields} (within : ToMember stack text) (blanks : Blank blank) :
      Seen (.nextName stack fields) (text ++ blank)
  | beforeColon {stack text fields name} (within : ToColon stack text) :
      Seen (.beforeColon stack fields name) text
  | afterValue {stack text element value} (within : ToElement stack text)
      (written : Element element) : Seen (.afterValue stack value) (text ++ element)

namespace Seen

variable {state after : State} {stack : List Frame} {text blank piece : List Char} {token : Token}

private theorem space (seen : Seen state text) (blanks : Blank blank) : Seen state (text ++ blank) := by
  cases seen with
  | beforeValue within before => simpa using beforeValue within (before.append blanks)
  | firstItem within before inside => simpa using firstItem within before (inside.append blanks)
  | firstName within before inside => simpa using firstName within before (inside.append blanks)
  | nextName within before => simpa using nextName within (before.append blanks)
  | beforeColon within =>
    obtain ⟨within, before, named, after⟩ := within
    simpa using beforeColon (.intro within before named (after.append blanks))
  | afterValue within written => simpa using afterValue within (written.space blanks)

private theorem complete (within : ToElement stack text) (blanks : Blank blank) {value : Json}
    (written : Value piece) : Seen (.afterValue stack value) (text ++ blank ++ piece) := by
  simpa using afterValue within (.intro blanks written .nil)

private theorem start (within : ToElement stack text) (blanks : Blank blank) (written : Piece token piece)
    (started : State.start? reading stack token = some after) : Seen after (text ++ blank ++ piece) := by
  cases written with
  | openArray =>
    simp only [State.start?, Option.ite_none_right_eq_some, Option.some.injEq] at started
    rw [← started.2]
    exact firstItem within blanks .nil
  | openObject =>
    simp only [State.start?, Option.ite_none_right_eq_some, Option.some.injEq] at started
    rw [← started.2]
    exact firstName within blanks .nil
  | text quoted =>
    cases started
    exact complete within blanks (.text quoted)
  | scalar scalar =>
    cases started
    exact complete within blanks (.scalar scalar)
  | closeArray | closeObject | comma | colon => cases started

/-- What the reader has seen after one token more. -/
theorem next (seen : Seen state text) (written : Piece token piece)
    (stepped : state.next? reading token = some after) : Seen after (text ++ piece) := by
  cases seen with
  | beforeValue within blanks => exact start within blanks written stepped
  | @firstItem stack _ _ _ within blanks inside =>
    by_cases closes : token = .closeArray
    · subst closes
      cases written
      cases stepped
      simpa using complete within blanks (.emptyArray inside)
    · have started : State.start? reading (.array [] :: stack) token = some after := by
        cases token <;> first | exact absurd rfl closes | exact stepped
      simpa using start (.item within blanks .first) inside written started
  | firstName within blanks inside =>
    cases written with
    | closeObject =>
      cases stepped
      simpa using complete within blanks (.emptyObject inside)
    | text quoted =>
      cases stepped
      simpa using beforeColon (.intro (.intro within blanks .first) inside quoted .nil)
    | _ => cases stepped
  | nextName within blanks =>
    cases written with
    | text quoted =>
      cases stepped
      simpa using beforeColon (.intro within blanks quoted .nil)
    | _ => cases stepped
  | beforeColon within =>
    cases written with
    | colon =>
      cases stepped
      simpa using beforeValue (.field within) .nil
    | _ => cases stepped
  | afterValue within element =>
    cases within with
    | document => cases token <;> cases stepped
    | item within blanks before =>
      cases written with
      | comma =>
        cases stepped
        simpa using beforeValue (.item within blanks (.later (before.elements element))) .nil
      | closeArray =>
        cases stepped
        simpa using complete within blanks (.array (before.elements element))
      | _ => cases stepped
    | field named =>
      obtain ⟨⟨within, blanks, before⟩, leading, name, trailing⟩ := named
      have members := before.members (.intro leading name trailing element)
      cases written with
      | comma =>
        cases stepped
        simpa using nextName (.intro within blanks (.later members)) .nil
      | closeObject =>
        cases stepped
        simpa using complete within blanks (.object members)
      | _ => cases stepped

end Seen

private theorem Seen.result {state : State} {text : List Char} {json : Json} (seen : Seen state text)
    (done : state.result? = some json) : Element text := by
  cases seen with
  | afterValue within written =>
    cases within with
    | document => simpa using written
    | item | field => cases done
  | _ => cases done

end Grammar

include grammatical in
private theorem readFrom_seen {fuel : Nat} {state final : State} {seen text : List Char}
    (before : Seen state seen) (read : readFrom reading fuel state text = some final) :
    Seen final (seen ++ text) := by
  induction fuel generalizing state seen text with
  | zero =>
    cases text with
    | nil =>
      cases read
      simpa using before
    | cons => cases read
  | succ fuel ih =>
    cases text with
    | nil =>
      cases read
      simpa using before
    | cons char text =>
      rw [readFrom] at read
      split at read
      next space => simpa using ih (before.space (blank_of_isSpace space)) read
      next =>
        simp only [Option.bind_eq_bind, Option.bind_eq_some_iff] at read
        obtain ⟨⟨token, rest⟩, tokenRead, after, stepped, read⟩ := read
        obtain ⟨piece, whole, written⟩ := readToken_some grammatical tokenRead
        rw [whole, ← List.append_assoc]
        exact ih (before.next written stepped) read

include grammatical in
/-- Only a document of the grammar is read. -/
theorem readWith?_element {text : List Char} {json : Json} (read : readWith? reading text = some json) :
    Element text := by
  simp only [readWith?, Option.bind_eq_bind, Option.bind_eq_some_iff] at read
  obtain ⟨final, read, done⟩ := read
  have seen := readFrom_seen grammatical (.beforeValue .document .nil) read
  exact Seen.result (by simpa using seen) done

/-- Whether bytes are a JSON document. What stands in its strings need not be UTF-8. -/
def IsDocument (bytes : ByteArray) : Prop :=
  Element (charsOf bytes)

end TextScenario.Json
