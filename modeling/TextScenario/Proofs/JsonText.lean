import Mathlib.Tactic.IntervalCases
import TextScenario.Proofs.JsonPrinting

/-! Reading the bytes of what is printed as JSON. What is printed for a text or an object takes the reader
from the state before a value to the state after what is written for it, whatever stands around it; a text
is read from what is written for it. -/

namespace TextScenario.Json

private theorem readText_escapeChar (fuel : Nat) (read : List Char) (char : Char) (rest : List Char) :
    readText (fuel + 1) read (escapeChar char ++ rest) = readText fuel (char :: read) rest := by
  by_cases control : char.toNat < 0x20
  · have same : char = Char.ofNat char.toNat := (Char.ofNat_toNat char).symm
    generalize char.toNat = code at control same
    subst same
    interval_cases code <;> rfl
  by_cases quote : char = '"'
  · subst quote
    rfl
  by_cases slash : char = '\\'
  · subst slash
    rfl
  have plain : escapeChar char = [char] := by
    unfold escapeChar
    split
    · exact absurd rfl quote
    · exact absurd rfl slash
    iterate 3 exact absurd (by decide) control
    · rw [if_neg (by omega), if_neg (by omega), if_neg control]
  rw [plain, List.singleton_append, readText.eq_def]
  dsimp only
  rw [if_neg quote, if_neg slash, if_neg control]

theorem escapeChar_ne_nil (char : Char) : escapeChar char ≠ [] := by
  unfold escapeChar
  split
  iterate 5 exact List.cons_ne_nil _ _
  · dsimp only
    split
    · exact List.cons_ne_nil _ _
    split
    · exact List.cons_ne_nil _ _
    split <;> exact List.cons_ne_nil _ _

private theorem length_le_escaped (text : List Char) : text.length ≤ (text.flatMap escapeChar).length := by
  induction text with
  | nil => exact Nat.zero_le _
  | cons char rest ih =>
    have some := List.length_pos_iff.mpr (escapeChar_ne_nil char)
    rw [List.flatMap_cons, List.length_append, List.length_cons]
    omega

private theorem readText_written (text : List Char) (fuel : Nat) (read rest : List Char)
    (enough : text.length < fuel) :
    readText fuel read (text.flatMap escapeChar ++ '"' :: rest) =
      some (String.ofList (read.reverse ++ text), rest) := by
  induction text generalizing fuel read with
  | nil =>
    obtain ⟨fuel, rfl⟩ := Nat.exists_eq_add_of_lt enough
    rw [readText.eq_def]
    simp
  | cons char text ih =>
    obtain ⟨fuel, rfl⟩ : ∃ more, fuel = more + 1 := ⟨fuel - 1, by omega⟩
    rw [List.flatMap_cons, List.append_assoc, readText_escapeChar,
      ih fuel (char :: read) (by rw [List.length_cons] at enough; omega)]
    simp

def encoded (text : List Char) : List Char :=
  text.flatMap fun char => (String.utf8EncodeChar char).map fun byte => Char.ofNat byte.toNat

theorem encoded_append (first second : List Char) :
    encoded (first ++ second) = encoded first ++ encoded second :=
  List.flatMap_append

private theorem charsOf_toUTF8 (text : String) : charsOf text.toUTF8 = encoded text.toList := by
  rw [String.toUTF8_eq_toByteArray, ← String.utf8Encode_toList, List.utf8Encode, charsOf, encoded,
    List.toList_data_toByteArray, List.map_flatMap]

private theorem toNat_ofNat_byte (byte : UInt8) : (Char.ofNat byte.toNat).toNat = byte.toNat := by
  have small := byte.toNat_lt
  have valid : byte.toNat.isValidChar := .inl (by omega)
  rw [Char.ofNat, dif_pos valid]
  rfl

private theorem bytesOf_encoded (text : List Char) : bytesOf (encoded text) = (String.ofList text).toUTF8 := by
  have same : (encoded text).map (fun char => char.toNat.toUInt8) =
      text.flatMap String.utf8EncodeChar := by
    rw [encoded, List.map_flatMap]
    congr 1
    funext char
    rw [List.map_map]
    refine (List.map_congr_left ?_).trans (List.map_id _)
    intro byte _
    simp [toNat_ofNat_byte]
  rw [bytesOf, same, String.toUTF8_eq_toByteArray, ← String.utf8Encode_toList, List.utf8Encode,
    String.toList_ofList]

theorem encoded_cons (char : Char) (text : List Char) :
    encoded (char :: text) = encoded [char] ++ encoded text :=
  encoded_append [char] text

private theorem encoded_ascii {char : Char} (ascii : char.toNat < 128) : encoded [char] = [char] := by
  have small : char.val.toNat ≤ 0x7f := Nat.le_of_lt_succ ascii
  have byte : (UInt8.ofNat char.val.toNat).toNat = char.toNat := by
    rw [UInt8.toNat_ofNat']
    exact Nat.mod_eq_of_lt (by omega)
  simp only [encoded, String.utf8EncodeChar, if_pos small, List.flatMap_singleton, List.map_cons,
    List.map_nil, byte, Char.ofNat_toNat]

private theorem encoded_beyond {char : Char} (beyond : 128 ≤ char.toNat) :
    ∀ byte ∈ encoded [char], 128 ≤ byte.toNat := by
  have large : ¬ char.val.toNat ≤ 0x7f := Nat.not_le_of_lt beyond
  intro shown member
  rw [encoded, List.flatMap_singleton] at member
  obtain ⟨byte, inside, rfl⟩ := List.mem_map.mp member
  rw [toNat_ofNat_byte]
  simp only [String.utf8EncodeChar, if_neg large] at inside
  split at inside
  · simp only [List.mem_cons, List.not_mem_nil, or_false] at inside
    rcases inside with rfl | rfl <;> simp only [UInt8.toNat_ofNat'] <;> omega
  split at inside
  · simp only [List.mem_cons, List.not_mem_nil, or_false] at inside
    rcases inside with rfl | rfl | rfl <;> simp only [UInt8.toNat_ofNat'] <;> omega
  · simp only [List.mem_cons, List.not_mem_nil, or_false] at inside
    rcases inside with rfl | rfl | rfl | rfl <;> simp only [UInt8.toNat_ofNat'] <;> omega

private theorem encoded_of_ascii {text : List Char} (ascii : ∀ char ∈ text, char.toNat < 128) :
    encoded text = text := by
  induction text with
  | nil => rfl
  | cons char rest ih =>
    rw [encoded_cons, encoded_ascii (ascii char (.head _)), ih fun other inside => ascii other (.tail _ inside)]
    rfl

namespace Grammar

private theorem Characters.beyond {text rest : List Char} (beyond : ∀ char ∈ text, 128 ≤ char.toNat)
    (later : Characters rest) : Characters (text ++ rest) := by
  induction text with
  | nil => exact later
  | cons char text ih =>
    have high := beyond char (.head _)
    refine .plain (by omega) ?_ ?_ (ih fun other inside => beyond other (.tail _ inside))
    · rintro rfl
      exact absurd high (by decide)
    · rintro rfl
      exact absurd high (by decide)

private theorem hexDigit_ascii {char : Char} (digit : (Text.hexDigit? char).isSome) : char.toNat < 128 := by
  have bounded {last : Char} (small : last.toNat < 128) (upto : char ≤ last) : char.toNat < 128 :=
    Nat.lt_of_le_of_lt (UInt32.le_iff_toNat_le.mp upto) small
  unfold Text.hexDigit? at digit
  split at digit
  next range => exact bounded (by decide) range.2
  split at digit
  next range => exact bounded (by decide) range.2
  split at digit
  next range => exact bounded (by decide) range.2
  next => cases digit

/-- The bytes of what stands between quotes may stand between quotes. -/
theorem Characters.encoded {text : List Char} (written : Characters text) :
    Characters (encoded text) := by
  induction written with
  | nil => exact .nil
  | @plain char rest shown open_ unescaped later ih =>
    rw [encoded_cons]
    by_cases ascii : char.toNat < 128
    · rw [encoded_ascii ascii]
      exact Characters.plain shown open_ unescaped ih
    · exact ih.beyond (encoded_beyond (by omega))
  | @escape code rest known later ih =>
    have narrow : code.toNat < 128 := by
      simp only [List.mem_cons, List.not_mem_nil, or_false] at known
      rcases known with rfl | rfl | rfl | rfl | rfl | rfl | rfl | rfl <;> decide
    rw [encoded_cons, encoded_cons code, encoded_ascii (by decide), encoded_ascii narrow]
    exact .escape known ih
  | @unicode digits rest four hexadecimal later ih =>
    have same : Json.encoded digits = digits :=
      encoded_of_ascii fun digit inside => hexDigit_ascii (hexadecimal digit inside)
    rw [encoded_cons, encoded_cons 'u', encoded_ascii (by decide), encoded_ascii (by decide),
      encoded_append, same]
    change Characters ('\\' :: 'u' :: (digits ++ Json.encoded rest))
    exact .unicode four hexadecimal ih

end Grammar

open Grammar

theorem fourHex?_append {digits : List Char} (rest : List Char) (four : digits.length = 4)
    (hexadecimal : ∀ digit ∈ digits, (Text.hexDigit? digit).isSome) :
    ∃ unit, fourHex? (digits ++ rest) = some (unit, rest) := by
  match digits, four with
  | [a, b, c, d], _ =>
    obtain ⟨first, firstRead⟩ := Option.isSome_iff_exists.mp (hexadecimal a (by simp))
    obtain ⟨second, secondRead⟩ := Option.isSome_iff_exists.mp (hexadecimal b (by simp))
    obtain ⟨third, thirdRead⟩ := Option.isSome_iff_exists.mp (hexadecimal c (by simp))
    obtain ⟨fourth, fourthRead⟩ := Option.isSome_iff_exists.mp (hexadecimal d (by simp))
    simp [fourHex?, firstRead, secondRead, thirdRead, fourthRead]

private theorem cutText_written {written : List Char} (characters : Characters written) (rest : List Char)
    {fuel : Nat} (read : List Char) (enough : written.length < fuel) :
    cutText fuel read (written ++ '"' :: rest) = some (String.ofList (read.reverse ++ written), rest) := by
  induction characters generalizing fuel read with
  | nil =>
    obtain ⟨fuel, rfl⟩ : ∃ more, fuel = more + 1 := ⟨fuel - 1, by simp at enough; omega⟩
    rw [cutText.eq_def]
    simp
  | @plain char text shown open_ unescaped later ih =>
    obtain ⟨fuel, rfl⟩ : ∃ more, fuel = more + 1 := ⟨fuel - 1, by simp at enough; omega⟩
    rw [List.cons_append, cutText.eq_def]
    dsimp only
    rw [if_neg open_, if_neg unescaped, if_neg (by omega), ih _ (by simp at enough; omega)]
    simp
  | @escape code text known later ih =>
    obtain ⟨fuel, rfl⟩ : ∃ more, fuel = more + 1 := ⟨fuel - 1, by simp at enough; omega⟩
    have plain : code ≠ 'u' := by
      rintro rfl
      exact absurd known (by decide)
    rw [List.cons_append, List.cons_append, cutText.eq_def]
    dsimp only
    rw [if_neg (by decide), if_pos rfl]
    split
    next same => exact absurd (List.cons.inj same).1 plain
    next other rest _ same =>
      obtain ⟨rfl, rfl⟩ := List.cons.inj same
      rw [if_pos (by simpa using known), ih _ (by simp at enough; omega)]
      simp
    next same => cases same
  | @unicode digits text four hexadecimal later ih =>
    obtain ⟨fuel, rfl⟩ : ∃ more, fuel = more + 1 := ⟨fuel - 1, by simp at enough; omega⟩
    obtain ⟨unit, read⟩ := fourHex?_append (text ++ '"' :: rest) four hexadecimal
    rw [List.cons_append, List.cons_append, List.append_assoc, cutText.eq_def]
    dsimp only
    rw [if_neg (by decide), if_pos rfl]
    simp only [read, Option.bind_eq_bind, Option.bind_some]
    rw [ih _ (by simp at enough; omega), List.take_left' four]
    simp

def writtenText (text : String) : String :=
  String.ofList (encoded (text.toList.flatMap escapeChar))

/-- A text is read from what is written for it. -/
theorem textOf?_writtenText (text : String) : textOf? (writtenText text) = some text := by
  have decoded : String.fromUTF8? (bytesOf (writtenText text).toList) =
      some (String.ofList (text.toList.flatMap escapeChar)) := by
    rw [writtenText, String.toList_ofList, bytesOf_encoded, String.fromUTF8?,
      String.toUTF8_eq_toByteArray, dif_pos (String.isValidUTF8 _)]
    rfl
  have long := length_le_escaped text.toList
  have read := readText_written text.toList ((text.toList.flatMap escapeChar).length + 1) [] [] (by omega)
  rw [textOf?, decoded]
  simp only [Option.bind_eq_bind, Option.bind_some, String.toList_ofList, read]
  simp

/-- The bytes of a piece of text take the reader from one state to another, whatever follows them. -/
def Reads (text : String) (before after : State) : Prop :=
  ∀ fuel rest, ∃ more, readFrom .written ((encoded text.toList).length + fuel) before
    (encoded text.toList ++ rest) = readFrom .written (fuel + more) after rest

namespace Reads

variable {before middle after : State} {text further : String}

theorem trans (first : Reads text before middle) (second : Reads further middle after) :
    Reads (text ++ further) before after := by
  intro fuel rest
  obtain ⟨some, firstRead⟩ := first ((encoded further.toList).length + fuel) (encoded further.toList ++ rest)
  obtain ⟨more, secondRead⟩ := second (fuel + some) rest
  refine ⟨some + more, ?_⟩
  rw [String.toList_append, encoded_append, List.length_append, List.append_assoc, Nat.add_assoc,
    firstRead, Nat.add_assoc, secondRead, Nat.add_assoc]

private theorem spaces (state : State) (blank : ∀ char ∈ text.toList, char = '\n' ∨ char = ' ') :
    Reads text state state := by
  have ascii : ∀ char ∈ text.toList, char.toNat < 128 := by
    intro char inside
    rcases blank char inside with rfl | rfl <;> decide
  intro fuel rest
  refine ⟨0, ?_⟩
  rw [encoded_of_ascii ascii]
  generalize text.toList = chars at blank
  induction chars generalizing fuel with
  | nil => simp
  | cons char chars ih =>
    have space : isSpace char = true := by
      rcases blank char (.head _) with rfl | rfl <;> rfl
    rw [List.length_cons, Nat.add_right_comm, List.cons_append, readFrom, if_pos space,
      ih fuel fun other inside => blank other (.tail _ inside)]

private theorem mark (char : Char) (token : Token)
    (read : ∀ rest, readToken .written char rest = some (token, rest)) (ascii : char.toNat < 128)
    (solid : isSpace char = false) (next : before.next? .written token = some after) :
    Reads (String.singleton char) before after := by
  intro fuel rest
  refine ⟨0, ?_⟩
  rw [String.toList_singleton, encoded_ascii ascii, List.length_singleton, Nat.add_comm,
    List.singleton_append, readFrom, if_neg (by simp [solid]), read]
  simp [next]

theorem quoted (value : String) (next : before.next? .written (.text (writtenText value)) = some after) :
    Reads (Json.quoted value) before after := by
  intro fuel rest
  have characters : Characters (encoded (value.toList.flatMap escapeChar)) :=
    (characters_written value).encoded
  have bytes : encoded (Json.quoted value).toList =
      '"' :: (encoded (value.toList.flatMap escapeChar) ++ ['"']) := by
    simp only [Json.quoted, String.toList_append, String.toList_ofList, encoded_append]
    rfl
  have read : readToken .written '"' (encoded (value.toList.flatMap escapeChar) ++ '"' :: rest) =
      some (.text (writtenText value), rest) := by
    have enough : (encoded (value.toList.flatMap escapeChar)).length <
        (encoded (value.toList.flatMap escapeChar) ++ '"' :: rest).length + 1 := by
      rw [List.length_append]
      omega
    have whole := cutText_written characters rest [] enough
    simp only [readToken, Reading.written, whole]
    simp [writtenText]
  refine ⟨(encoded (value.toList.flatMap escapeChar) ++ ['"']).length, ?_⟩
  rw [bytes, List.length_cons, List.cons_append, List.append_assoc, List.singleton_append,
    Nat.add_right_comm, readFrom, if_neg (by decide), read, Nat.add_comm fuel]
  simp [next]

private theorem newline (level : Nat) (state : State) : Reads (Json.newline level) state state := by
  refine spaces state ?_
  intro char inside
  simp only [Json.newline, String.toList_append, String.toList_ofList, List.mem_append,
    List.mem_replicate] at inside
  rcases inside with first | ⟨-, rfl⟩
  · exact .inl (by simpa using first)
  · exact .inr rfl

end Reads

private theorem reads_field (level : Nat) (stack : List Frame) (name : String) (value told : Json)
    (read : List (String × Json)) {start : State}
    (starts : start.next? .written (.text (writtenText name)) =
      some (.beforeColon stack read (writtenText name)))
    (written : ∀ frame : Frame, Reads (indented level value) (.beforeValue (frame :: stack))
      (.afterValue (frame :: stack) told)) :
    Reads (Json.quoted name ++ ": " ++ indented level value) start
      (.afterValue (.object read (writtenText name) :: stack) told) := by
  refine .trans (.trans (.quoted name starts) ?_) (written _)
  have colon : Reads ":" (.beforeColon stack read (writtenText name)) _ :=
    .mark ':' .colon (fun rest => rfl) (by decide) rfl rfl
  have blank : Reads " " (.beforeValue (.object read (writtenText name) :: stack)) _ :=
    .spaces _ (by simp)
  exact colon.trans blank

/-- The fields of an object are read up to the last, which the reader is left with. -/
theorem reads_fields (level : Nat) (stack : List Frame) (told : Json → Json)
    (fields : List (String × Json)) (name : String) (value : Json) (read : List (String × Json))
    (start : State) (starts : ∀ name, start.next? .written (.text name) = some (.beforeColon stack read name))
    (written : ∀ field ∈ (name, value) :: fields, ∀ frame : Frame,
      Reads (indented level field.2) (.beforeValue (frame :: stack))
        (.afterValue (frame :: stack) (told field.2))) :
    ∃ earlier lastName lastValue,
      ((lastName, lastValue) :: earlier).reverse =
        read.reverse ++ ((name, value) :: fields).map (fun field => (writtenText field.1, told field.2)) ∧
      Reads (joined ("," ++ Json.newline level) (indentedFields level ((name, value) :: fields)))
        start (.afterValue (.object earlier lastName :: stack) lastValue) := by
  induction fields generalizing name value read start with
  | nil =>
    refine ⟨read, writtenText name, told value, by simp, ?_⟩
    simp only [indentedFields, joined]
    exact reads_field level stack name value (told value) read (starts _) (written (name, value) (.head _))
  | cons field fields ih =>
    obtain ⟨next, following⟩ := field
    obtain ⟨earlier, lastName, lastValue, whole, reads⟩ :=
      ih next following ((writtenText name, told value) :: read)
        (.nextName stack ((writtenText name, told value) :: read))
        (fun name => rfl) (fun other inside => written other (.tail _ inside))
    refine ⟨earlier, lastName, lastValue, by simp [whole], ?_⟩
    have first := reads_field level stack name value (told value) read (starts _)
      (written (name, value) (.head _))
    have comma : Reads "," (.afterValue (.object read (writtenText name) :: stack) (told value))
        (.nextName stack ((writtenText name, told value) :: read)) :=
      .mark ',' .comma (fun rest => rfl) (by decide) rfl rfl
    have between := comma.trans (.newline level _)
    simpa only [indentedFields, joined] using (first.trans between).trans reads

theorem reads_object (level : Nat) (stack : List Frame) (told : Json → Json)
    (fields : List (String × Json))
    (written : ∀ field ∈ fields, ∀ frame : Frame,
      Reads (indented (level + 1) field.2) (.beforeValue (frame :: stack))
        (.afterValue (frame :: stack) (told field.2))) :
    Reads (indented level (.object fields)) (.beforeValue stack) (.afterValue stack
      (.object (fields.map fun field => (writtenText field.1, told field.2)))) := by
  have begins : Reads "\x7b" (.beforeValue stack) (.firstName stack) :=
    .mark '{' .openObject (fun rest => rfl) (by decide) rfl rfl
  cases fields with
  | nil =>
    have ends : Reads "\x7d" (.firstName stack) (.afterValue stack (.object [])) :=
      .mark '}' .closeObject (fun rest => rfl) (by decide) rfl rfl
    rw [indented]
    exact begins.trans ends
  | cons field fields =>
    obtain ⟨name, value⟩ := field
    obtain ⟨earlier, lastName, lastValue, whole, reads⟩ :=
      reads_fields (level + 1) stack told fields name value [] (.firstName stack)
        (fun name => rfl) written
    have ends : Reads "\x7d" (.afterValue (.object earlier lastName :: stack) lastValue)
        (.afterValue stack (.object (((name, value) :: fields).map fun field =>
          (writtenText field.1, told field.2)))) := by
      refine .mark '}' .closeObject (fun rest => rfl) (by decide) rfl ?_
      rw [List.reverse_nil, List.nil_append] at whole
      rw [← whole]
      rfl
    have all := (((begins.trans (.newline (level + 1) _)).trans reads).trans (.newline level _)).trans ends
    simpa [indented] using all

/-- A printed document is read to its end. -/
theorem readBytes?_of_reads {json told : Json}
    (reads : Reads (pretty json) (.beforeValue []) (.afterValue [] told)) :
    readBytes? (pretty json).toUTF8 = some told := by
  obtain ⟨more, read⟩ := reads 0 []
  rw [List.append_nil, Nat.add_zero] at read
  rw [readBytes?, readWith?, charsOf_toUTF8, read]
  simp [readFrom, State.result?]

end TextScenario.Json
