import MetaLedger.Bytes

/-!
# Machine words in byte strings

The digests work on words: a byte string is cut into words of four or eight bytes, least or most
significant byte first, and what is too short for a word is handed back.
-/

namespace MetaLedger.Digest

/-- The word of four bytes, least significant first. -/
def word32 (a b c d : UInt8) : UInt32 :=
  a.toUInt32 ||| (b.toUInt32 <<< 8) ||| (c.toUInt32 <<< 16) ||| (d.toUInt32 <<< 24)

/-- The word of eight bytes, least significant first. -/
def word64 (a b c d e f g h : UInt8) : UInt64 :=
  (word32 a b c d).toUInt64 ||| ((word32 e f g h).toUInt64 <<< 32)

/-- Cuts off words of four bytes, least significant byte first. -/
def words32 : Bytes → List UInt32 × Bytes
  | a :: b :: c :: d :: rest =>
    let (words, left) := words32 rest
    (word32 a b c d :: words, left)
  | left => ([], left)

/-- Cuts off words of eight bytes, least significant byte first. -/
def words64 : Bytes → List UInt64 × Bytes
  | a :: b :: c :: d :: e :: f :: g :: h :: rest =>
    let (words, left) := words64 rest
    (word64 a b c d e f g h :: words, left)
  | left => ([], left)

/-- Cuts off words of eight bytes, most significant byte first. -/
def words64BE : Bytes → List UInt64 × Bytes
  | a :: b :: c :: d :: e :: f :: g :: h :: rest =>
    let (words, left) := words64BE rest
    (word64 h g f e d c b a :: words, left)
  | left => ([], left)

/-- A word of four bytes, least significant byte first. -/
def bytes32 (w : UInt32) : Bytes :=
  [w.toUInt8, (w >>> 8).toUInt8, (w >>> 16).toUInt8, (w >>> 24).toUInt8]

/-- A word of eight bytes, least significant byte first. -/
def bytes64 (w : UInt64) : Bytes := bytes32 w.toUInt32 ++ bytes32 (w >>> 32).toUInt32

@[simp] theorem length_bytes32 (w : UInt32) : (bytes32 w).length = 4 := rfl

@[simp] theorem length_bytes64 (w : UInt64) : (bytes64 w).length = 8 := rfl

/-- Pieces of one length make a string of their number times that length. -/
theorem length_flatMap_of_length {α : Type} {f : α → Bytes} {n : Nat}
    (h : ∀ x, (f x).length = n) (xs : List α) : (xs.flatMap f).length = xs.length * n := by
  induction xs with
  | nil => simp
  | cons x xs ih => simp [List.flatMap_cons, h, ih, Nat.succ_mul, Nat.add_comm]

/-- Rotation towards the more significant bits. -/
def rotateLeft64 (w : UInt64) (n : UInt64) : UInt64 := (w <<< n) ||| (w >>> (64 - n))

/-- Rotation towards the less significant bits. -/
def rotateRight64 (w : UInt64) (n : UInt64) : UInt64 := (w >>> n) ||| (w <<< (64 - n))

/-- Rotation towards the less significant bits. -/
def rotateRight32 (w : UInt32) (n : UInt32) : UInt32 := (w >>> n) ||| (w <<< (32 - n))

/-- Cuts `bytes` into pieces of `size` bytes, the last one possibly shorter. Nothing is cut into no
pieces. -/
def pieces (size : Nat) (bytes : Bytes) : List Bytes :=
  if bytes = [] ∨ size = 0 then []
  else bytes.take size :: pieces size (bytes.drop size)
termination_by bytes.length
decreasing_by
  rename_i stop
  have := List.length_pos_iff.mpr (not_or.mp stop).1
  simp only [List.length_drop]
  omega

end MetaLedger.Digest
