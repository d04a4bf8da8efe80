/-!
# Binary floating-point numbers in decimal

A double is `m * 2 ^ q` for integers `m` and `q`. Its shortest decimal is the one with the fewest
digits that reads back as the same double, and of two such the nearer (`shortest`). `ofParts` goes
the other way in the quick manner of a reader that keeps 64 bits of the digits and scales them by one
power of ten: it may miss the nearest double by a little, and knows a value beyond the range.
-/

namespace MetaLedger.Decimal

/-- A positive double, as `significand * 2 ^ exponent`. -/
structure Binary where
  significand : Nat
  exponent : Int
  /-- The double below is only half as far away as the one above. -/
  closeBelow : Bool

/-- The parts of a finite double other than its sign; nothing for zero. -/
def Binary.ofBits? (bits : UInt64) : Option Binary :=
  let hidden : Nat := 1 <<< 52
  let fraction : Nat := bits.toNat % hidden
  let biased : Nat := bits.toNat / hidden % 2048
  if biased = 0 then
    if fraction = 0 then none else some ⟨fraction, -1074, false⟩
  else some ⟨fraction + hidden, Int.ofNat biased - 1075, fraction == 0 && decide (1 < biased)⟩

/-- A power of ten; one for a negative power. -/
def powerOfTen (n : Int) : Nat := Nat.pow 10 n.toNat

/-- `a * 2 ^ p` compared with `b * 10 ^ q`. -/
def compareScaled (a : Nat) (p : Int) (b : Nat) (q : Int) : Ordering :=
  compare ((a * powerOfTen (-q)) <<< p.toNat) ((b * powerOfTen q) <<< (-p).toNat)

/-- The number `digits * 10 ^ power` reads back as `x`: it lies no further than half way to the
neighbours of `x`, and a number half way is read as the neighbour that is even. -/
def readsBack (x : Binary) (digits : Nat) (power : Int) : Bool :=
  let below := 4 * x.significand - (if x.closeBelow then 1 else 2)
  let above := 4 * x.significand + 2
  let low := compareScaled below (x.exponent - 2) digits power
  let high := compareScaled above (x.exponent - 2) digits power
  if x.significand % 2 = 0 then low != .gt && high != .lt else low == .lt && high == .gt

/-- The digits of `x` over `10 ^ power`, rounded down. -/
def digitsDown (x : Binary) (power : Int) : Nat :=
  ((x.significand * powerOfTen (-power)) <<< x.exponent.toNat)
    / (powerOfTen power <<< (-x.exponent).toNat)

/-- The power of ten at which `x` has at least `count` digits. -/
def powerFor (x : Binary) (count : Nat) : Int :=
  let whole := digitsDown x (-400)
  ((Nat.toDigits 10 whole).length : Int) - 400 - count

/-- The shortest decimal of `x` as digits and a power of ten. With 17 digits every double reads
back, so the search ends there. -/
def shortest (x : Binary) : Nat × Int :=
  let candidate (count : Nat) : Option (Nat × Int) :=
    let power := powerFor x count
    let down := digitsDown x power
    let nearer :=
      match compareScaled (2 * x.significand) x.exponent (2 * down + 1) power with
      | .lt => [down, down + 1]
      | .gt => [down + 1, down]
      | .eq => if down % 2 = 0 then [down, down + 1] else [down + 1, down]
    (nearer.find? (readsBack x · power)).map (·, power)
  ((List.range 17).findSome? fun i => candidate (i + 1)).getD (digitsDown x (powerFor x 17), powerFor x 17)

/-- Drops the zeros that end the digits. -/
def trim (fuel : Nat) (digits : Nat) (power : Int) : Nat × Int :=
  match fuel with
  | 0 => (digits, power)
  | fuel + 1 =>
    if digits % 10 = 0 && digits != 0 then trim fuel (digits / 10) (power + 1) else (digits, power)

/-- The text of a finite double: positional from a hundred-thousandth up to sixteen digits, with a
fraction always, and else with an exponent. -/
def text (bits : UInt64) : String :=
  let sign := if bits.toNat / (1 <<< 63) = 1 then "-" else ""
  match Binary.ofBits? bits with
  | none => sign ++ "0.0"
  | some x =>
    let (digits, power) := shortest x
    let (digits, power) := trim 20 digits power
    let ds := toString digits
    let count : Int := ds.length
    let point := count + power
    let zeros (n : Int) : String := String.ofList (List.replicate n.toNat '0')
    let body :=
      if 0 ≤ power && point ≤ 16 then ds ++ zeros power ++ ".0"
      else if 0 < point && point ≤ 16 then
        String.ofList (ds.toList.take point.toNat) ++ "." ++ String.ofList (ds.toList.drop point.toNat)
      else if -5 < point && point ≤ 0 then "0." ++ zeros (-point) ++ ds
      else
        let head := String.ofList (ds.toList.take 1)
        let tail := String.ofList (ds.toList.drop 1)
        head ++ (if tail.isEmpty then "" else "." ++ tail) ++ "e" ++ toString (point - 1)
    sign ++ body

/-- The double that a reader makes of `significand * 10 ^ exponent`; nothing beyond the range. Far
below one it scales in steps of `10 ^ 308`. -/
def ofParts? (negative : Bool) (significand : Nat) (exponent : Int) : Option UInt64 :=
  let ten (n : Nat) : Float := Float.ofScientific 1 false n
  let rec scale (fuel : Nat) (f : Float) (exponent : Int) : Option Float :=
    if exponent.natAbs ≤ 308 then
      if 0 ≤ exponent then
        let product := f * ten exponent.natAbs
        if product.isInf then none else some product
      else some (f / ten exponent.natAbs)
    else if f == 0.0 then some f
    else if 0 ≤ exponent then none
    else
      match fuel with
      | 0 => some 0.0
      | fuel + 1 => scale fuel (f / ten 308) (exponent + 308)
  (scale 4 (Float.ofNat significand) exponent).map fun f =>
    (if negative then -f else f).toBits

end MetaLedger.Decimal
