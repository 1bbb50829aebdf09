import Schemata.Bytes
import Schemata.Pieces

/-!
# The BLAKE3 digest

The unkeyed digest of a byte string.  The input is cut into chunks of 1024 octets, each chunk is
compressed block by block, and the chaining values of the chunks are joined by a binary tree whose
left subtrees are complete.  The compression of the root gives the digest.

## Main definitions

* `Blake3.compress` : the compression function.
* `Blake3.digest` : the 32 octets of the digest.
-/

namespace Schemata.Blake3

/-- The sixteen words of a block or of the working state. -/
abbrev Block := Vector UInt32 16

/-- A chaining value: eight words. -/
abbrev Chain := Vector UInt32 8

/-- The initial chaining value. -/
def initial : Chain :=
  #v[0x6A09E667, 0xBB67AE85, 0x3C6EF372, 0xA54FF53A, 0x510E527F, 0x9B05688C, 0x1F83D9AB, 0x5BE0CD19]

/-- Marks the first block of a chunk. -/
def chunkStart : UInt32 := 1

/-- Marks the last block of a chunk. -/
def chunkEnd : UInt32 := 2

/-- Marks a block made of two chaining values. -/
def parentFlag : UInt32 := 4

/-- Marks the block that yields the digest. -/
def rootFlag : UInt32 := 8

/-- Rotates a word to the right by `count` bits, `0 < count < 32`. -/
def rotateRight (word count : UInt32) : UInt32 :=
  (word >>> count) ||| (word <<< (32 - count))

/-- Mixes two message words into one column or diagonal of the state. -/
def mix (s : Block) (a b c d : Fin 16) (x y : UInt32) : Block :=
  let s := s.set a (s[a] + s[b] + x)
  let s := s.set d (rotateRight (s[d] ^^^ s[a]) 16)
  let s := s.set c (s[c] + s[d])
  let s := s.set b (rotateRight (s[b] ^^^ s[c]) 12)
  let s := s.set a (s[a] + s[b] + y)
  let s := s.set d (rotateRight (s[d] ^^^ s[a]) 8)
  let s := s.set c (s[c] + s[d])
  s.set b (rotateRight (s[b] ^^^ s[c]) 7)

/-- One round: the four columns, then the four diagonals. -/
def round (s m : Block) : Block :=
  let s := mix s 0 4 8 12 m[0] m[1]
  let s := mix s 1 5 9 13 m[2] m[3]
  let s := mix s 2 6 10 14 m[4] m[5]
  let s := mix s 3 7 11 15 m[6] m[7]
  let s := mix s 0 5 10 15 m[8] m[9]
  let s := mix s 1 6 11 12 m[10] m[11]
  let s := mix s 2 7 8 13 m[12] m[13]
  mix s 3 4 9 14 m[14] m[15]

/-- The order in which the next round takes the message words. -/
def permute (m : Block) : Block :=
  #v[m[2], m[6], m[3], m[10], m[7], m[0], m[4], m[13],
     m[1], m[11], m[12], m[5], m[9], m[14], m[15], m[8]]

/-- `count` rounds, the message words permuted between them. -/
def rounds : Nat → Block → Block → Block
  | 0, s, _ => s
  | count + 1, s, m => rounds count (round s m) (permute m)

/-- A block ready to be compressed. -/
structure Node where
  chain : Chain
  block : Block
  counter : Nat
  length : Nat
  flags : UInt32

/-- The sixteen output words of the compression function. -/
def compress (node : Node) : Block :=
  let h := node.chain
  let start : Block :=
    #v[h[0], h[1], h[2], h[3], h[4], h[5], h[6], h[7],
       initial[0], initial[1], initial[2], initial[3],
       UInt32.ofNat node.counter, UInt32.ofNat (node.counter / 4294967296),
       UInt32.ofNat node.length, node.flags]
  let s := rounds 7 start node.block
  #v[s[0] ^^^ s[8], s[1] ^^^ s[9], s[2] ^^^ s[10], s[3] ^^^ s[11],
     s[4] ^^^ s[12], s[5] ^^^ s[13], s[6] ^^^ s[14], s[7] ^^^ s[15],
     s[8] ^^^ h[0], s[9] ^^^ h[1], s[10] ^^^ h[2], s[11] ^^^ h[3],
     s[12] ^^^ h[4], s[13] ^^^ h[5], s[14] ^^^ h[6], s[15] ^^^ h[7]]

/-- The chaining value that a node hands on. -/
def Node.output (node : Node) : Chain :=
  let s := compress node
  #v[s[0], s[1], s[2], s[3], s[4], s[5], s[6], s[7]]

/-- The digest when `node` is the root. -/
def Node.digest (node : Node) : List UInt8 :=
  let s := (Node.mk node.chain node.block 0 node.length (node.flags ||| rootFlag)).output
  s.toList.flatMap fun word => Bytes.ofNat 4 word.toNat

/-- The words of at most 64 octets, padded with zeros. -/
def wordsOf (bytes : List UInt8) : Block :=
  Vector.ofFn fun i : Fin 16 => UInt32.ofNat (Bytes.toNat ((bytes.drop (4 * i)).take 4))

/-- Compresses the blocks of chunk number `index`, all but the last. -/
def chunkNode (index : Nat) : Chain → UInt32 → List (List UInt8) → Node
  | chain, start, [] => ⟨chain, wordsOf [], index, 0, start ||| chunkEnd⟩
  | chain, start, [last] => ⟨chain, wordsOf last, index, last.length, start ||| chunkEnd⟩
  | chain, start, block :: next :: rest =>
    let node : Node := ⟨chain, wordsOf block, index, block.length, start⟩
    chunkNode index node.output 0 (next :: rest)

/-- The node that joins two subtrees. -/
def parent (left right : Chain) : Node :=
  ⟨initial, left ++ right, 0, 64, parentFlag⟩

/-- Adds the chaining value of a finished subtree.  `count` is the number of chunks in all the
finished subtrees together; each complete pair is joined. -/
def addChain : List Chain → Chain → Nat → List Chain
  | [], chain, _ => [chain]
  | left :: stack, chain, count =>
    if count % 2 = 0 then addChain stack (parent left chain).output (count / 2)
    else chain :: left :: stack

/-- Compresses the chunks from number `index` on and returns the last one uncompressed, together
with the chaining values of the finished subtrees before it, nearest first. -/
def chunks : Nat → List Chain → List (List UInt8) → List Chain × Node
  | index, stack, [] => (stack, chunkNode index initial chunkStart [])
  | index, stack, [last] => (stack, chunkNode index initial chunkStart (pieces 64 last))
  | index, stack, chunk :: next :: rest =>
    let node := chunkNode index initial chunkStart (pieces 64 chunk)
    chunks (index + 1) (addChain stack node.output (index + 1)) (next :: rest)

/-- The 32 octets of the digest of `bytes`. -/
def digest (bytes : List UInt8) : List UInt8 :=
  let (stack, last) := chunks 0 [] (pieces 1024 bytes)
  (stack.foldl (fun node left => parent left node.output) last).digest

end Schemata.Blake3
