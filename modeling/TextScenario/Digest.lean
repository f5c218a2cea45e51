/-!
BLAKE3 digests. Input is cut into chunks of 1024 bytes and chunks into blocks of 64; the chunks are
the leaves of a binary tree whose left subtrees are full.
-/

namespace TextScenario.Digest

abbrev Words := Array UInt32

def word (words : Words) (index : Nat) : UInt32 :=
  words[index]?.getD 0

def initial : Words :=
  #[0x6A09E667, 0xBB67AE85, 0x3C6EF372, 0xA54FF53A, 0x510E527F, 0x9B05688C, 0x1F83D9AB, 0x5BE0CD19]

def chunkStart : UInt32 := 1
def chunkEnd : UInt32 := 2
def parentNode : UInt32 := 4
def root : UInt32 := 8

def rotateRight (value : UInt32) (amount : UInt32) : UInt32 :=
  (value >>> amount) ||| (value <<< (32 - amount))

/-- Mixes two message words into one column or diagonal of the state. -/
def mix (state : Words) (a b c d : Nat) (first second : UInt32) : Words :=
  let va := word state a + word state b + first
  let vd := rotateRight (word state d ^^^ va) 16
  let vc := word state c + vd
  let vb := rotateRight (word state b ^^^ vc) 12
  let va := va + vb + second
  let vd := rotateRight (vd ^^^ va) 8
  let vc := vc + vd
  let vb := rotateRight (vb ^^^ vc) 7
  (((state.setIfInBounds a va).setIfInBounds b vb).setIfInBounds c vc).setIfInBounds d vd

/-- One round: four columns, then four diagonals. -/
def round (state message : Words) : Words :=
  let m := word message
  let state := mix state 0 4 8 12 (m 0) (m 1)
  let state := mix state 1 5 9 13 (m 2) (m 3)
  let state := mix state 2 6 10 14 (m 4) (m 5)
  let state := mix state 3 7 11 15 (m 6) (m 7)
  let state := mix state 0 5 10 15 (m 8) (m 9)
  let state := mix state 1 6 11 12 (m 10) (m 11)
  let state := mix state 2 7 8 13 (m 12) (m 13)
  mix state 3 4 9 14 (m 14) (m 15)

def permutation : List Nat :=
  [2, 6, 3, 10, 7, 0, 4, 13, 1, 11, 12, 5, 9, 14, 15, 8]

def permute (message : Words) : Words :=
  (permutation.map (word message)).toArray

def rounds : Nat → Words → Words → Words
  | 0, state, _ => state
  | count + 1, state, message => rounds count (round state message) (permute message)

/-- What is compressed: a chaining value with a block, its place, its length and its flags. -/
structure Node where
  chaining : Words
  block : Words
  counter : Nat
  length : Nat
  flags : UInt32

def Node.compress (node : Node) (flags : UInt32) : Words :=
  let start := node.chaining ++ initial.extract 0 4 ++
    #[UInt32.ofNat node.counter, UInt32.ofNat (node.counter / 0x100000000), UInt32.ofNat node.length,
      node.flags ||| flags]
  let state := rounds 7 start node.block
  ((List.range 8).map fun index => word state index ^^^ word state (index + 8)).toArray

def Node.chainingValue (node : Node) : Words :=
  node.compress 0

/-- Sixteen words of a block that starts at an offset, padded with zeros. -/
def blockAt (bytes : ByteArray) (first last : Nat) : Words :=
  let byte (index : Nat) : UInt32 :=
    if index < last then (bytes[index]?.getD 0).toUInt32 else 0
  ((List.range 16).map fun index =>
    let offset := first + 4 * index
    byte offset ||| (byte (offset + 1) <<< 8) ||| (byte (offset + 2) <<< 16) |||
      (byte (offset + 3) <<< 24)).toArray

def blockLength : Nat := 64
def chunkLength : Nat := 1024

/-- The last node of the chunk with the given number, from one of its blocks on. -/
def chunkNode (bytes : ByteArray) (last counter : Nat) : Nat → Nat → Words → UInt32 → Node
  | 0, first, chaining, start =>
    { chaining
      block := blockAt bytes first last
      counter
      length := last - first
      flags := start ||| chunkEnd }
  | blocks + 1, first, chaining, start =>
    let node : Node :=
      { chaining
        block := blockAt bytes first (first + blockLength)
        counter
        length := blockLength
        flags := start }
    chunkNode bytes last counter blocks (first + blockLength) node.chainingValue 0

def chunk (bytes : ByteArray) (counter : Nat) : Node :=
  let first := counter * chunkLength
  let last := min bytes.size (first + chunkLength)
  chunkNode bytes last counter ((last - first - 1) / blockLength) first initial chunkStart

/-- The greatest power of two that is less than the number of chunks. -/
def leftSize (chunks : Nat) : Nat :=
  1 <<< Nat.log2 (chunks - 1)

/-- The node over `chunks` chunks from a given one on; the fuel bounds the height of the tree. -/
def subtree (bytes : ByteArray) : Nat → Nat → Nat → Node
  | 0, counter, _ => chunk bytes counter
  | height + 1, counter, chunks =>
    if chunks ≤ 1 then chunk bytes counter
    else
      let left := leftSize chunks
      { chaining := initial
        block :=
          (subtree bytes height counter left).chainingValue ++
            (subtree bytes height (counter + left) (chunks - left)).chainingValue
        counter := 0
        length := blockLength
        flags := parentNode }

def hexDigit (value : Nat) : Char :=
  if value < 10 then Char.ofNat ('0'.toNat + value) else Char.ofNat ('a'.toNat + (value - 10))

def byteText (value : Nat) : List Char :=
  [hexDigit (value / 16 % 16), hexDigit (value % 16)]

def wordText (value : UInt32) : List Char :=
  let value := value.toNat
  byteText value ++ byteText (value / 0x100) ++ byteText (value / 0x10000) ++ byteText (value / 0x1000000)

/-- The digest of a byte string in 64 hexadecimal digits. -/
def ofBytes (bytes : ByteArray) : String :=
  let chunks := max 1 ((bytes.size + chunkLength - 1) / chunkLength)
  let node := subtree bytes (Nat.log2 chunks + 1) 0 chunks
  String.ofList ((node.compress root).toList.flatMap wordText)

end TextScenario.Digest
