import MetaLedger.Digest.Mixing

/-!
# BLAKE3

Unkeyed BLAKE3 with a digest of 32 bytes. The message is cut into chunks of 1024 bytes, the leaves
of a binary tree in which each left subtree is full; the root is compressed once more with its own
mark.
-/

namespace MetaLedger.Digest.Blake3

/-- The first 32 bits of the fractions of the square roots of the first four primes. -/
def startLow : Vector UInt32 4 := #v[0x6a09e667, 0xbb67ae85, 0x3c6ef372, 0xa54ff53a]

/-- And of the next four. -/
def startHigh : Vector UInt32 4 := #v[0x510e527f, 0x9b05688c, 0x1f83d9ab, 0x5be0cd19]

/-- The chaining value that a chunk starts with. -/
def start : Vector UInt32 8 := startLow ++ startHigh

/-- How the message words move from one round to the next. -/
def permutation : List Mixing.Place :=
  Mixing.order [2, 6, 3, 10, 7, 0, 4, 13, 1, 11, 12, 5, 9, 14, 15, 8]

/-- Words of 32 bits. -/
def mixer : Mixing.Mixer UInt32 := ⟨rotateRight32, 16, 12, 8, 7⟩

def chunkStart : UInt32 := 1
def chunkEnd : UInt32 := 2
def parentNode : UInt32 := 4
def rootNode : UInt32 := 8

/-- What a node of the tree is made of: it is compressed once it is known whether it is the root. -/
structure Node where
  chaining : Vector UInt32 8
  block : Vector UInt32 16
  counter : Nat
  size : Nat
  flags : UInt32

/-- The first eight words of the compressed node. The message words move after each round. -/
def Node.compress (n : Node) (extra : UInt32) : Vector UInt32 8 :=
  let marks : Vector UInt32 4 := #v[UInt32.ofNat n.counter,
    UInt32.ofNat (n.counter / UInt32.size), UInt32.ofNat n.size, n.flags ||| extra]
  let v : Vector UInt32 16 := n.chaining ++ startLow ++ marks
  let mixed := (List.range 7).foldl (fun (v, message) _ =>
    (mixer.round v message, Mixing.inOrder permutation message)) (v, n.block)
  Mixing.halves mixed.1

/-- The sixteen words of a block, filled up with zeros. -/
def blockWords (block : Bytes) : Vector UInt32 16 :=
  let words := (words32 (block ++ List.replicate (64 - block.length) 0)).1.toArray
  Vector.ofFn fun i : Fin 16 => words.getD i 0

/-- The last node of a chunk, after all blocks before it have been compressed. -/
def chunkNode (counter : Nat) (chaining : Vector UInt32 8) (flag : UInt32) : List Bytes → Node
  | [] => ⟨chaining, blockWords [], counter, 0, flag ||| chunkEnd⟩
  | [block] => ⟨chaining, blockWords block, counter, block.length, flag ||| chunkEnd⟩
  | block :: rest =>
    let node : Node := ⟨chaining, blockWords block, counter, block.length, flag⟩
    chunkNode counter (node.compress 0) 0 rest

/-- The node over two subtrees. -/
def parent (left right : Vector UInt32 8) : Node :=
  ⟨start, (left ++ right : Vector UInt32 16), 0, 64, parentNode⟩

/-- Adds the value of a finished chunk to the subtrees to its left, smallest first. Two subtrees of
one size are joined: there are as many joins as the number of chunks so far has factors of two. -/
def push (stack : List (Vector UInt32 8)) (value : Vector UInt32 8) (chunks : Nat) :
    List (Vector UInt32 8) :=
  match stack with
  | left :: rest =>
    if chunks % 2 = 0 then push rest ((parent left value).compress 0) (chunks / 2)
    else value :: stack
  | [] => [value]

/-- The root over the finished subtrees and the last chunk. -/
def finish (node : Node) : List (Vector UInt32 8) → Node
  | [] => node
  | left :: rest => finish (parent left (node.compress 0)) rest

/-- Takes the chunks in turn; the last one stays open until the root is known. -/
def absorb (stack : List (Vector UInt32 8)) (counter : Nat) : List Bytes → Node
  | [] => finish (chunkNode counter start chunkStart []) stack
  | [chunk] => finish (chunkNode counter start chunkStart (pieces 64 chunk)) stack
  | chunk :: rest =>
    let value := (chunkNode counter start chunkStart (pieces 64 chunk)).compress 0
    absorb (push stack value (counter + 1)) (counter + 1) rest

end MetaLedger.Digest.Blake3

namespace MetaLedger.Digest

/-- The BLAKE3 digest of a message. -/
def blake3 (message : Bytes) : Fixed 32 :=
  let root := (Blake3.absorb [] 0 (pieces 1024 message)).compress Blake3.rootNode
  ⟨root.toList.flatMap bytes32, by simp [length_flatMap_of_length length_bytes32]⟩

end MetaLedger.Digest
