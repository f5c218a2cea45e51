/-!
Reading bytes as UTF-8 where anything goes: each part of a sequence that cannot be completed becomes
one replacement character.
-/

namespace TextScenario.Text

def replacementChar : Char := '\ufffd'

/-- How many bytes follow a first byte, its bits, and the range of the second byte. -/
def sequenceOf? (first : Nat) : Option (Nat × Nat × Nat × Nat) :=
  if first < 0x80 then some (0, first, 0, 0)
  else if first < 0xC2 then none
  else if first < 0xE0 then some (1, first % 32, 0x80, 0xBF)
  else if first = 0xE0 then some (2, first % 16, 0xA0, 0xBF)
  else if first = 0xED then some (2, first % 16, 0x80, 0x9F)
  else if first < 0xF0 then some (2, first % 16, 0x80, 0xBF)
  else if first = 0xF0 then some (3, first % 8, 0x90, 0xBF)
  else if first < 0xF4 then some (3, first % 8, 0x80, 0xBF)
  else if first = 0xF4 then some (3, first % 8, 0x80, 0x8F)
  else none

/-- Reads the bytes that follow. `pending` holds how many are missing, the bits so far and the range
of the next byte. -/
def decodeFrom : Option (Nat × Nat × Nat × Nat) → List Nat → List Char
  | none, [] => []
  | some _, [] => [replacementChar]
  | none, byte :: rest =>
    match sequenceOf? byte with
    | none => replacementChar :: decodeFrom none rest
    | some (0, bits, _, _) => Char.ofNat bits :: decodeFrom none rest
    | some pending => decodeFrom (some pending) rest
  | some (missing, bits, least, most), byte :: rest =>
    if least ≤ byte ∧ byte ≤ most then
      if missing ≤ 1 then Char.ofNat (bits * 64 + byte % 64) :: decodeFrom none rest
      else decodeFrom (some (missing - 1, bits * 64 + byte % 64, 0x80, 0xBF)) rest
    else
      match sequenceOf? byte with
      | none => replacementChar :: replacementChar :: decodeFrom none rest
      | some (0, bits, _, _) => replacementChar :: Char.ofNat bits :: decodeFrom none rest
      | some pending => replacementChar :: decodeFrom (some pending) rest

def decodeLossy (bytes : ByteArray) : String :=
  String.ofList (decodeFrom none (bytes.toList.map UInt8.toNat))

end TextScenario.Text
