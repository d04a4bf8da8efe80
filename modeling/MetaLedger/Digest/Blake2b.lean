import MetaLedger.Digest.Mixing

/-!
# BLAKE2b

Keyless BLAKE2b with a digest of 16 or 32 bytes. The digest length is part of the first state
word, so the short digest is not the start of the long one.
-/

namespace MetaLedger.Digest.Blake2b

/-- The first 64 bits of the fractions of the square roots of the first eight primes. -/
def start : Vector UInt64 8 := #v[
  0x6a09e667f3bcc908, 0xbb67ae8584caa73b, 0x3c6ef372fe94f82b, 0xa54ff53a5f1d36f1,
  0x510e527fade682d1, 0x9b05688c2b3e6c1f, 0x1f83d9abfb41bd6b, 0x5be0cd19137e2179]

/-- The order in which each round takes the message words. -/
def schedules : List (List Mixing.Place) := [
  [0, 1, 2, 3, 4, 5, 6, 7, 8, 9, 10, 11, 12, 13, 14, 15],
  [14, 10, 4, 8, 9, 15, 13, 6, 1, 12, 0, 2, 11, 7, 5, 3],
  [11, 8, 12, 0, 5, 2, 15, 13, 10, 14, 3, 6, 7, 1, 9, 4],
  [7, 9, 3, 1, 13, 12, 11, 14, 2, 6, 5, 10, 4, 0, 15, 8],
  [9, 0, 5, 7, 2, 4, 10, 15, 14, 1, 11, 12, 6, 8, 3, 13],
  [2, 12, 6, 10, 0, 11, 8, 3, 4, 13, 7, 5, 15, 14, 1, 9],
  [12, 5, 1, 15, 14, 13, 4, 10, 0, 7, 6, 3, 9, 2, 8, 11],
  [13, 11, 7, 14, 12, 1, 3, 9, 5, 0, 15, 4, 8, 6, 2, 10],
  [6, 15, 14, 9, 11, 3, 0, 8, 12, 2, 13, 7, 1, 4, 10, 5],
  [10, 2, 8, 4, 7, 6, 1, 5, 15, 11, 9, 14, 3, 12, 13, 0]].map Mixing.order

/-- Words of 64 bits. -/
def mixer : Mixing.Mixer UInt64 := ⟨rotateRight64, 32, 24, 16, 63⟩

/-- The state after one block, of which `count` bytes of the message have been taken. -/
def compress (h : Vector UInt64 8) (block : Bytes) (count : Nat) (last : Bool) :
    Vector UInt64 8 :=
  let words := (words64 (block ++ List.replicate (128 - block.length) 0)).1.toArray
  let message := Vector.ofFn fun i : Fin 16 => words.getD i 0
  let v := (h ++ start : Vector UInt64 16)
  let v := v.set 12 (v[12] ^^^ UInt64.ofNat count)
  let v := v.set 13 (v[13] ^^^ UInt64.ofNat (count / UInt64.size))
  let v := if last then v.set 14 (~~~v[14]) else v
  let rounds := schedules ++ schedules.take 2
  let v := rounds.foldl (fun v order => mixer.round v (Mixing.inOrder order message)) v
  Vector.zipWith (· ^^^ ·) h (Mixing.halves v)

/-- Takes the blocks in turn; the last one is marked, and an empty message is one empty block. -/
def absorb (h : Vector UInt64 8) (count : Nat) : List Bytes → Vector UInt64 8
  | [] => compress h [] count true
  | [block] => compress h block (count + block.length) true
  | block :: rest => absorb (compress h block (count + block.length) false) (count + block.length) rest

/-- The eight state words after the whole message, for a digest of `size` bytes. -/
def state (size : Nat) (message : Bytes) : Vector UInt64 8 :=
  absorb (start.set 0 (start[0] ^^^ 0x01010000 ^^^ UInt64.ofNat size)) 0 (pieces 128 message)

/-- The state words as bytes. -/
def output (h : Vector UInt64 8) : Bytes := h.toList.flatMap bytes64

theorem length_output (h : Vector UInt64 8) : (output h).length = 64 := by
  simp [output, length_flatMap_of_length length_bytes64]

end MetaLedger.Digest.Blake2b

namespace MetaLedger.Digest

/-- The digest of 16 bytes, under which map keys are filed. -/
def blake2b128 (message : Bytes) : Fixed 16 :=
  ⟨(Blake2b.output (Blake2b.state 16 message)).take 16, by simp [Blake2b.length_output]⟩

/-- The digest of 32 bytes: transaction hashes and long signing payloads. -/
def blake2b256 (message : Bytes) : Fixed 32 :=
  ⟨(Blake2b.output (Blake2b.state 32 message)).take 32, by simp [Blake2b.length_output]⟩

end MetaLedger.Digest
