/-!
The BLAKE3 hash of a byte string. The input is cut into chunks of 1024 bytes and these into blocks of 64;
the chunks are the leaves of a binary tree in which every left subtree is full, and the digest is taken at
the root.
-/

namespace Infiltration.Blake3

/-- The chaining value that stands for a finished part of the input. -/
abbrev Chain := Vector UInt32 8

/-- Sixteen words: a block of input, or the state of the compression. -/
abbrev Block := Vector UInt32 16

def initial : Chain :=
  #v[0x6A09E667, 0xBB67AE85, 0x3C6EF372, 0xA54FF53A, 0x510E527F, 0x9B05688C, 0x1F83D9AB, 0x5BE0CD19]

/-! ## Compression -/

def rotateRight (word count : UInt32) : UInt32 := (word >>> count) ||| (word <<< (32 - count))

/-- Mix two words of the message into four words of the state. -/
def mix (state : Block) (a b c d : Fin 16) (x y : UInt32) : Block :=
  let state := state.set a (state[a] + state[b] + x)
  let state := state.set d (rotateRight (state[d] ^^^ state[a]) 16)
  let state := state.set c (state[c] + state[d])
  let state := state.set b (rotateRight (state[b] ^^^ state[c]) 12)
  let state := state.set a (state[a] + state[b] + y)
  let state := state.set d (rotateRight (state[d] ^^^ state[a]) 8)
  let state := state.set c (state[c] + state[d])
  state.set b (rotateRight (state[b] ^^^ state[c]) 7)

/-- One round: first the columns of the state, then its diagonals. -/
def round (state message : Block) : Block :=
  let state := mix state 0 4 8 12 message[0] message[1]
  let state := mix state 1 5 9 13 message[2] message[3]
  let state := mix state 2 6 10 14 message[4] message[5]
  let state := mix state 3 7 11 15 message[6] message[7]
  let state := mix state 0 5 10 15 message[8] message[9]
  let state := mix state 1 6 11 12 message[10] message[11]
  let state := mix state 2 7 8 13 message[12] message[13]
  mix state 3 4 9 14 message[14] message[15]

/-- The order in which the next round takes the words of the message. -/
def permute (m : Block) : Block :=
  #v[m[2], m[6], m[3], m[10], m[7], m[0], m[4], m[13], m[1], m[11], m[12], m[5], m[9], m[14], m[15], m[8]]

def rounds : Nat → Block → Block → Block
  | 0, state, _ => state
  | more + 1, state, message => rounds more (round state message) (permute message)

/-- A block about to be compressed. -/
structure Node where
  chain : Chain
  block : Block
  counter : UInt64
  length : UInt32
  flags : UInt32

def Node.compress (node : Node) : Chain :=
  let h := node.chain
  let state : Block :=
    #v[h[0], h[1], h[2], h[3], h[4], h[5], h[6], h[7],
      0x6A09E667, 0xBB67AE85, 0x3C6EF372, 0xA54FF53A,
      node.counter.toUInt32, (node.counter >>> 32).toUInt32, node.length, node.flags]
  let s := rounds 7 state node.block
  #v[s[0] ^^^ s[8], s[1] ^^^ s[9], s[2] ^^^ s[10], s[3] ^^^ s[11],
    s[4] ^^^ s[12], s[5] ^^^ s[13], s[6] ^^^ s[14], s[7] ^^^ s[15]]

def chunkStart : UInt32 := 1

def chunkEnd : UInt32 := 2

def parentFlag : UInt32 := 4

def rootFlag : UInt32 := 8

/-! ## Chunks -/

def byteAt (bytes : ByteArray) (place : Nat) : UInt32 :=
  if h : place < bytes.size then bytes[place].toUInt32 else 0

/-- Four bytes, the lowest first. -/
def wordAt (bytes : ByteArray) (place : Nat) : UInt32 :=
  byteAt bytes place ||| (byteAt bytes (place + 1) <<< 8) ||| (byteAt bytes (place + 2) <<< 16) |||
    (byteAt bytes (place + 3) <<< 24)

/-- The sixteen words from a place on, filled up with zeros after the end of the input. -/
def blockAt (bytes : ByteArray) (place : Nat) : Block :=
  Vector.ofFn fun i => wordAt bytes (place + 4 * i.val)

/-- The last block of a chunk, after so many blocks before it have been compressed. -/
def lastBlock (bytes : ByteArray) (counter : UInt64) (ending : Nat) :
    Nat → Nat → Chain → UInt32 → Node
  | 0, place, chain, flags =>
    { chain, block := blockAt bytes place, counter, length := UInt32.ofNat (ending - place),
      flags := flags ||| chunkEnd }
  | before + 1, place, chain, flags =>
    let node : Node := { chain, block := blockAt bytes place, counter, length := 64, flags }
    lastBlock bytes counter ending before (place + 64) node.compress 0

/-- The chunk with a number. Only a chunk of the empty input is empty. -/
def chunk (bytes : ByteArray) (number : Nat) : Node :=
  let start := 1024 * number
  let ending := min bytes.size (start + 1024)
  lastBlock bytes (UInt64.ofNat number) ending ((ending - start - 1) / 64) start initial chunkStart

/-! ## The tree -/

def join (left right : Chain) : Node where
  chain := initial
  block := left ++ right
  counter := 0
  length := 64
  flags := parentFlag

/-- How many chunks go to the left: the largest power of two below their number. -/
def leftSize (count : Nat) : Nat := 1 <<< (count - 1).log2

theorem leftSize_lt {count : Nat} (h : 1 < count) : leftSize count < count := by
  have := Nat.log2_self_le (n := count - 1) (by omega)
  rw [leftSize, Nat.one_shiftLeft]
  omega

theorem leftSize_pos (count : Nat) : 0 < leftSize count := by
  rw [leftSize, Nat.one_shiftLeft]
  exact Nat.two_pow_pos _

/-- The node above so many chunks from a number on. -/
def subtree (bytes : ByteArray) (first count : Nat) : Node :=
  if _h : 1 < count then
    join (subtree bytes first (leftSize count)).compress
      (subtree bytes (first + leftSize count) (count - leftSize count)).compress
  else chunk bytes first
termination_by count
decreasing_by
  · exact leftSize_lt _h
  · have := leftSize_pos count
    omega

/-- The digest as words. -/
def digest (bytes : ByteArray) : Chain :=
  let root := subtree bytes 0 (max 1 ((bytes.size + 1023) / 1024))
  { root with counter := 0, flags := root.flags ||| rootFlag : Node }.compress

/-! ## The digest in hexadecimal -/

def hexByte (byte : UInt32) : List Char :=
  [Nat.digitChar (byte.toNat / 16 % 16), Nat.digitChar (byte.toNat % 16)]

/-- The four bytes of a word, the lowest first. -/
def hexWord (word : UInt32) : List Char :=
  hexByte word ++ hexByte (word >>> 8) ++ hexByte (word >>> 16) ++ hexByte (word >>> 24)

/-- The digest of a byte string in 64 lower-case digits. -/
def hex (bytes : ByteArray) : String :=
  String.ofList ((digest bytes).toList.flatMap hexWord)

theorem length_hexWord (word : UInt32) : (hexWord word).length = 8 := rfl

theorem length_hex (bytes : ByteArray) : (hex bytes).length = 64 := by
  simp [hex, List.length_flatMap, length_hexWord, List.map_const']

end Infiltration.Blake3
