import PinTypes.Number.Power

/-!
# `PinTypes.Digest.Blake3` — the BLAKE3 hash

Bytes are hashed in chunks of 1024 bytes, each a chain of blocks of 64; the chaining values of the chunks
are joined in a binary tree whose left subtrees are full. Everything is on lists of words.

## Contents
- **Words.** `rotateRight`, `wordOfBytes`, `bytesOfWord`.
- **Compression.** `Lanes`, `Rows`, `mix`, `round`, `rounds`, `Node`, `Node.compress`.
- **Chunks.** `chunkNode`, `chunks`.
- **The tree.** `leftCount`, `treeNode`.
- **Digests.** `digest`, `hex`.
-/

namespace PinTypes.Digest.Blake3

/-! ## Words -/

/-- The word rotated to the right; the count is between 1 and 31. -/
def rotateRight (x : UInt32) (count : UInt32) : UInt32 := (x >>> count) ||| (x <<< (32 - count))

/-- The word of up to four bytes, least significant first. -/
def wordOfBytes (bytes : List UInt8) : UInt32 :=
  bytes.foldr (fun b w => w * 256 + b.toUInt32) 0

/-- The four bytes of a word, least significant first. -/
def bytesOfWord (w : UInt32) : List UInt8 :=
  [w.toUInt8, (w >>> 8).toUInt8, (w >>> 16).toUInt8, (w >>> 24).toUInt8]

/-- Cuts a list into pieces of the given length; the last one may be shorter. The fuel bounds the number
    of pieces. -/
def pieces {α : Type} (size : Nat) : Nat → List α → List (List α)
  | 0, _ => []
  | _, [] => []
  | fuel + 1, xs => xs.take size :: pieces size fuel (xs.drop size)

/-- The sixteen words of a block, short blocks filled up with zeros. -/
def blockWords (block : List UInt8) : List UInt32 :=
  let full := block ++ List.replicate (64 - block.length) 0
  (pieces 4 16 full).map wordOfBytes

/-! ## Compression -/

/-- Four words that are worked on side by side. -/
structure Lanes where
  w0 : UInt32
  w1 : UInt32
  w2 : UInt32
  w3 : UInt32
deriving DecidableEq

/-- Works on each lane. -/
def Lanes.zip (f : UInt32 → UInt32 → UInt32) (x y : Lanes) : Lanes :=
  ⟨f x.w0 y.w0, f x.w1 y.w1, f x.w2 y.w2, f x.w3 y.w3⟩

/-- The lanes moved by one place to the left, the first one to the end. -/
def Lanes.turn (x : Lanes) : Lanes := ⟨x.w1, x.w2, x.w3, x.w0⟩

/-- The words in a list. -/
def Lanes.toList (x : Lanes) : List UInt32 := [x.w0, x.w1, x.w2, x.w3]

/-- The words at four positions of a list. -/
def Lanes.pick (words : List UInt32) (i j k l : Nat) : Lanes :=
  ⟨words.getD i 0, words.getD j 0, words.getD k 0, words.getD l 0⟩

/-- The state of sixteen words, as four rows. -/
structure Rows where
  a : Lanes
  b : Lanes
  c : Lanes
  d : Lanes

/-- Exclusive or, then a rotation. -/
def xorRotate (count : UInt32) (x y : Lanes) : Lanes :=
  x.zip (fun p q => rotateRight (p ^^^ q) count) y

/-- Sums in each lane. -/
def Lanes.sum (x y : Lanes) : Lanes := x.zip (· + ·) y

/-- Mixes two message words into each column of the state. -/
def mix (s : Rows) (x y : Lanes) : Rows :=
  let a := (s.a.sum s.b).sum x
  let d := xorRotate 16 s.d a
  let c := s.c.sum d
  let b := xorRotate 12 s.b c
  let a := (a.sum b).sum y
  let d := xorRotate 8 d a
  let c := c.sum d
  let b := xorRotate 7 b c
  ⟨a, b, c, d⟩

/-- One round: the columns, then the diagonals. -/
def round (s : Rows) (message : List UInt32) : Rows :=
  let s := mix s (.pick message 0 2 4 6) (.pick message 1 3 5 7)
  let s := Rows.mk s.a s.b.turn s.c.turn.turn s.d.turn.turn.turn
  let s := mix s (.pick message 8 10 12 14) (.pick message 9 11 13 15)
  ⟨s.a, s.b.turn.turn.turn, s.c.turn.turn, s.d.turn⟩

/-- Where the message words of a round stand in the round before. -/
def schedule : List Nat := [2, 6, 3, 10, 7, 0, 4, 13, 1, 11, 12, 5, 9, 14, 15, 8]

/-- So many rounds, the message words rearranged between any two. -/
def rounds : Nat → Rows → List UInt32 → Rows
  | 0, s, _ => s
  | n + 1, s, message => rounds n (round s message) (schedule.map (message.getD · 0))

/-- The first words of the state, and the chaining value at the start. -/
def initial : List UInt32 :=
  [0x6A09E667, 0xBB67AE85, 0x3C6EF372, 0xA54FF53A, 0x510E527F, 0x9B05688C, 0x1F83D9AB, 0x5BE0CD19]

/-- Marks the first block of a chunk. -/
def chunkStart : UInt32 := 1

/-- Marks the last block of a chunk. -/
def chunkEnd : UInt32 := 2

/-- Marks a node that joins two subtrees. -/
def parent : UInt32 := 4

/-- Marks the root of the tree. -/
def root : UInt32 := 8

/-- What is compressed last for a chunk or a subtree. -/
structure Node where
  chaining : List UInt32
  message : List UInt32
  counter : Nat
  length : Nat
  flags : UInt32

/-- The eight words that a node is compressed to, under further flags. -/
def Node.compress (n : Node) (more : UInt32) : List UInt32 :=
  let s : Rows :=
    { a := .pick n.chaining 0 1 2 3
      b := .pick n.chaining 4 5 6 7
      c := .pick initial 0 1 2 3
      d := ⟨n.counter.toUInt32, (n.counter / 4294967296).toUInt32, n.length.toUInt32,
        n.flags ||| more⟩ }
  let t := rounds 7 s n.message
  (t.a.zip (· ^^^ ·) t.c).toList ++ (t.b.zip (· ^^^ ·) t.d).toList

/-! ## Chunks -/

/-- Chains the blocks of a chunk; the last one is left to be compressed. -/
def chainBlocks (counter : Nat) (chaining : List UInt32) (flags : UInt32) : List (List UInt8) → Node
  | [] => ⟨chaining, blockWords [], counter, 0, flags ||| chunkEnd⟩
  | [block] => ⟨chaining, blockWords block, counter, block.length, flags ||| chunkEnd⟩
  | block :: rest =>
    let node : Node := ⟨chaining, blockWords block, counter, block.length, flags⟩
    chainBlocks counter (node.compress 0) 0 rest

/-- The node of a chunk, which holds at most 1024 bytes. -/
def chunkNode (counter : Nat) (chunk : List UInt8) : Node :=
  chainBlocks counter initial chunkStart (pieces 64 16 chunk)

/-- The chunks of a message; one empty chunk if the message is empty. -/
def chunks (bytes : List UInt8) : List (List UInt8) :=
  match pieces 1024 bytes.length bytes with
  | [] => [[]]
  | cs => cs

/-! ## The tree -/

/-- How many of the chunks belong to the left subtree: the greatest power of two below their number. -/
def leftCount (n : Nat) : Nat := Number.twoTo (n - 1).log2

/-- The node that joins two subtrees. -/
def join (left right : Node) : Node :=
  ⟨initial, left.compress 0 ++ right.compress 0, 0, 64, parent⟩

/-- The node over chunks that are numbered from `counter` on. The fuel bounds the depth of the tree. -/
def treeNode : Nat → Nat → List (List UInt8) → Node
  | 0, counter, chunks => chunkNode counter (chunks.headD [])
  | _ + 1, counter, [chunk] => chunkNode counter chunk
  | fuel + 1, counter, chunks =>
    let left := leftCount chunks.length
    join (treeNode fuel counter (chunks.take left))
      (treeNode fuel (counter + left) (chunks.drop left))

/-! ## Digests -/

/-- The digest of 32 bytes. -/
def digest (bytes : List UInt8) : List UInt8 :=
  let cs := chunks bytes
  ((treeNode cs.length 0 cs).compress root).flatMap bytesOfWord

/-- Bytes in base sixteen, two digits each. -/
def hex (bytes : List UInt8) : List Char :=
  bytes.flatMap fun b => [Nat.digitChar (b.toNat / 16), Nat.digitChar (b.toNat % 16)]

end PinTypes.Digest.Blake3
