import MetaLedger.Digest.Words

/-!
# XXH64

The fast 64-bit digest with a seed, and the 128-bit name digest made of two of them (`twox128`),
under which storage is filed by pallet and item name. It is not collision resistant; nothing here
relies on that.
-/

namespace MetaLedger.Digest.XxHash64

def prime1 : UInt64 := 0x9E3779B185EBCA87
def prime2 : UInt64 := 0xC2B2AE3D27D4EB4F
def prime3 : UInt64 := 0x165667B19E3779F9
def prime4 : UInt64 := 0x85EBCA77C2B2AE63
def prime5 : UInt64 := 0x27D4EB2F165667C5

/-- One word into one accumulator. -/
def mixWord (acc word : UInt64) : UInt64 :=
  rotateLeft64 (acc + word * prime2) 31 * prime1

/-- The four accumulators that long inputs run through side by side. -/
structure Lanes where
  a : UInt64
  b : UInt64
  c : UInt64
  d : UInt64

namespace Lanes

def start (seed : UInt64) : Lanes :=
  ⟨seed + prime1 + prime2, seed + prime2, seed, seed - prime1⟩

/-- Takes words four at a time, one for each lane, and hands back the words left over. -/
def absorb (l : Lanes) : List UInt64 → Lanes × List UInt64
  | w :: x :: y :: z :: rest =>
    absorb ⟨mixWord l.a w, mixWord l.b x, mixWord l.c y, mixWord l.d z⟩ rest
  | left => (l, left)

/-- The lanes joined into one accumulator. -/
def join (l : Lanes) : UInt64 :=
  let sum := rotateLeft64 l.a 1 + rotateLeft64 l.b 7 + rotateLeft64 l.c 12 + rotateLeft64 l.d 18
  [l.a, l.b, l.c, l.d].foldl (fun acc lane => (acc ^^^ mixWord 0 lane) * prime1 + prime4) sum

end Lanes

/-- A word that no full stripe took. -/
def tailWord (acc word : UInt64) : UInt64 :=
  rotateLeft64 (acc ^^^ mixWord 0 word) 27 * prime1 + prime4

/-- The bytes that no full word took: a half word first, then single bytes. -/
def tailBytes (acc : UInt64) : Bytes → UInt64
  | a :: b :: c :: d :: rest =>
    tailBytes (rotateLeft64 (acc ^^^ ((word32 a b c d).toUInt64 * prime1)) 23 * prime2 + prime3) rest
  | a :: rest => tailBytes (rotateLeft64 (acc ^^^ (a.toUInt64 * prime5)) 11 * prime1) rest
  | [] => acc

/-- The last mixing, in which every bit reaches every other. -/
def avalanche (acc : UInt64) : UInt64 :=
  let acc := (acc ^^^ (acc >>> 33)) * prime2
  let acc := (acc ^^^ (acc >>> 29)) * prime3
  acc ^^^ (acc >>> 32)

/-- The digest of `data` under `seed`. -/
def digest (seed : UInt64) (data : Bytes) : UInt64 :=
  let (words, left) := words64 data
  let (acc, words) :=
    if data.length < 32 then (seed + prime5, words)
    else
      let (lanes, words) := (Lanes.start seed).absorb words
      (lanes.join, words)
  let acc := acc + UInt64.ofNat data.length
  avalanche (tailBytes (words.foldl tailWord acc) left)

end MetaLedger.Digest.XxHash64

namespace MetaLedger.Digest

/-- The digests under seeds 0 and 1, one after the other. -/
def twox128 (data : Bytes) : Fixed 16 :=
  ⟨bytes64 (XxHash64.digest 0 data) ++ bytes64 (XxHash64.digest 1 data), by simp⟩

end MetaLedger.Digest
