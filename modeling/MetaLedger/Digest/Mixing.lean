import MetaLedger.Digest.Words

/-!
# Mixing words

What BLAKE2b and BLAKE3 share: sixteen working words, seen as a square of four by four, whose columns
and then diagonals are mixed with two words of the message each. The two differ in the width of the
words, in the amounts of the rotations, and in the order in which the message is taken.
-/

namespace MetaLedger.Digest.Mixing

/-- A place among sixteen words. -/
abbrev Place := Fin 16

/-- The columns and then the diagonals of the square. -/
def quarters : List (Place × Place × Place × Place) :=
  [(0, 4, 8, 12), (1, 5, 9, 13), (2, 6, 10, 14), (3, 7, 11, 15),
   (0, 5, 10, 15), (1, 6, 11, 12), (2, 7, 8, 13), (3, 4, 9, 14)]

/-- An order of sixteen words, from the numbers of their places. -/
def order (places : List Nat) : List Place := places.map (Fin.ofNat 16)

/-- The kind of words that are mixed: how they are rotated, and by which four amounts. -/
structure Mixer (Word : Type) where
  rotate : Word → Word → Word
  first : Word
  second : Word
  third : Word
  fourth : Word

variable {Word : Type} [Add Word] [XorOp Word]

/-- Mixes two message words into four working words. -/
@[specialize] def Mixer.mix (m : Mixer Word) (v : Vector Word 16) (a b c d : Place) (x y : Word) :
    Vector Word 16 :=
  let va := v[a] + v[b] + x
  let vd := m.rotate (v[d] ^^^ va) m.first
  let vc := v[c] + vd
  let vb := m.rotate (v[b] ^^^ vc) m.second
  let va := va + vb + y
  let vd := m.rotate (vd ^^^ va) m.third
  let vc := vc + vd
  let vb := m.rotate (vb ^^^ vc) m.fourth
  (((v.set a va).set b vb).set c vc).set d vd

/-- One round: each quarter takes the next two words of the message. -/
@[specialize] def Mixer.round (m : Mixer Word) (v message : Vector Word 16) : Vector Word 16 :=
  (quarters.zip (List.finRange 8)).foldl (fun v (q, i) =>
    m.mix v q.1 q.2.1 q.2.2.1 q.2.2.2 message[2 * i.val] message[2 * i.val + 1]) v

omit [Add Word] [XorOp Word] in
/-- The words in an order; a place that the order leaves out gets the first word. -/
@[specialize] def inOrder (order : List Place) (message : Vector Word 16) : Vector Word 16 :=
  Vector.ofFn fun i : Place => message[order.getD i.val 0]

omit [Add Word] in
/-- The first eight words, each joined with the one eight places on. -/
@[specialize] def halves (v : Vector Word 16) : Vector Word 8 :=
  Vector.ofFn fun i : Fin 8 => v[i.val] ^^^ v[i.val + 8]

end MetaLedger.Digest.Mixing
