import MetaLedger.Scale.Reader

/-!
# Compact integers

An integer is written in one, two or four bytes, or in as many as it needs with their number in
front; the low two bits of the first byte say which. The shortest form is the only one that is
read.
-/

namespace MetaLedger.Scale

/-- How many bytes a number needs, at least one. -/
def byteLength (n : Nat) : Nat := n.log2 / 8 + 1

/-- The least number that is not written in one byte: two bits are taken by the form. -/
def oneByteBound : Nat := 0x40

/-- The least number that is not written in two bytes or fewer. -/
def twoByteBound : Nat := 0x4000

/-- The least number that is not written in four bytes or fewer. -/
def fourByteBound : Nat := 0x40000000

/-- The compact form of an integer. -/
def encodeCompact (n : Nat) : Bytes :=
  if n < oneByteBound then Bytes.ofNatLE 1 (4 * n)
  else if n < twoByteBound then Bytes.ofNatLE 2 (4 * n + 1)
  else if n < fourByteBound then Bytes.ofNatLE 4 (4 * n + 2)
  else UInt8.ofNat (4 * (byteLength n - 4) + 3) :: Bytes.ofNatLE (byteLength n) n

/-- Accepts a number in the range `[low, high)` of its form. -/
def inRange (width : Width) (low high n : Nat) : Reader Nat :=
  if low ≤ n ∧ n < high then pure n else Reader.fail (.compactRange width)

/-- Reads a compact integer of the given width. That a 32-bit integer announces more than four bytes
is out of its range; that a 128-bit one announces more than sixteen is an error of its own. -/
def compact (width : Width) : Reader Nat := do
  let first ← Reader.byte
  let low := first.toNat / 4
  match first.toNat % 4 with
  | 0 => return low
  | 1 =>
    let high ← Reader.natLE 1
    inRange width oneByteBound twoByteBound (low + 64 * high)
  | 2 =>
    let high ← Reader.natLE 3
    inRange width twoByteBound fourByteBound (low + 64 * high)
  | _ =>
    let size := low + 4
    if size ≤ width.bytes then
      let n ← Reader.natLE size
      inRange width (if size = 4 then fourByteBound else Bytes.bound (size - 1)) (Bytes.bound size) n
    else
      match width with
      | .u32 => Reader.fail (.compactRange .u32)
      | .u128 => Reader.fail (.compactPrefix .u128)

end MetaLedger.Scale
