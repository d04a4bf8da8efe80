import MetaLedger.Bytes

/-!
# The twisted Edwards curve of Ed25519

The prime field of order `2^255 - 19`, the points of `-x² + y² = 1 + d x² y²` in extended
coordinates, and their 32-byte form: the `y` coordinate with the lowest bit of `x` on top.
A reader takes `y` modulo the prime, so a point may have a second written form; `encode` gives the
reduced one.
-/

namespace MetaLedger.Ed25519

/-- The sign of `x` stands at the highest of 256 bits. -/
def signBit : Nat := 1 <<< 255

/-- The order of the field. -/
def prime : Nat := signBit - 19

/-- An element of the field. -/
abbrev Field := Fin prime

namespace Field

def ofNat (n : Nat) : Field := ⟨n % prime, Nat.mod_lt n (by decide)⟩

/-- The power by squaring, over the 255 bits of an exponent below the prime. -/
def power (x : Field) (exponent : Nat) : Field :=
  (List.range 255).reverse.foldl (fun acc i =>
    let acc := acc * acc
    if exponent.testBit i then acc * x else acc) (ofNat 1)

/-- The inverse; zero for zero. -/
def inverse (x : Field) : Field := power x (prime - 2)

/-- A square root of minus one. -/
def rootOfMinusOne : Field := power (ofNat 2) ((prime - 1) / 4)

/-- The even square root of `u / v`, if that quotient is a square. -/
def evenRoot? (u v : Field) : Option Field :=
  let v3 := v * v * v
  let r := u * v3 * power (u * v3 * v3 * v) ((prime - 5) / 8)
  let even (r : Field) : Field := if r.val % 2 = 0 then r else -r
  let check := v * (r * r)
  if check = u then some (even r)
  else if check = -u then some (even (r * rootOfMinusOne))
  else none

end Field

/-- The curve's constant. -/
def edwardsD : Field := -Field.ofNat 121665 * Field.inverse (Field.ofNat 121666)

/-- A point in extended coordinates: the affine point is `(x / z, y / z)`, and `x * y = z * t`. -/
structure Point where
  x : Field
  y : Field
  z : Field
  t : Field

namespace Point

/-- The neutral point. -/
def zero : Point := ⟨Field.ofNat 0, Field.ofNat 1, Field.ofNat 1, Field.ofNat 0⟩

/-- The point with the given affine coordinates. -/
def ofAffine (x y : Field) : Point := ⟨x, y, Field.ofNat 1, x * y⟩

def neg (p : Point) : Point := ⟨-p.x, p.y, p.z, -p.t⟩

/-- The sum; the formula holds for every two points of the curve. -/
def add (p q : Point) : Point :=
  let a := (p.y - p.x) * (q.y - q.x)
  let b := (p.y + p.x) * (q.y + q.x)
  let c := p.t * (edwardsD + edwardsD) * q.t
  let d := p.z * (q.z + q.z)
  let e := b - a
  let f := d - c
  let g := d + c
  let h := b + a
  ⟨e * f, g * h, f * g, e * h⟩

def double (p : Point) : Point :=
  let a := p.x * p.x
  let b := p.y * p.y
  let c := p.z * p.z
  let h := a + b
  let s := p.x + p.y
  let e := h - s * s
  let g := a - b
  let f := c + c + g
  ⟨e * f, g * h, f * g, e * h⟩

/-- The multiple by a number below `2^256`. -/
def multiple (p : Point) (n : Nat) : Point :=
  (List.range 256).reverse.foldl (fun acc i =>
    let acc := acc.double
    if n.testBit i then acc.add p else acc) zero

/-- The 32 bytes of a point. -/
def encode (p : Point) : Fixed 32 :=
  let inverse := p.z.inverse
  let x := p.x * inverse
  let y := p.y * inverse
  ⟨Bytes.ofNatLE 32 (y.val + x.val % 2 * signBit), by simp⟩

/-- Reads a point: any `y`, taken modulo the prime, for which the curve has an `x`. -/
def decode? (bytes : Fixed 32) : Option Point :=
  let n := Bytes.toNatLE bytes.toList
  let y := Field.ofNat (n % signBit)
  let y2 := y * y
  match Field.evenRoot? (y2 - Field.ofNat 1) (edwardsD * y2 + Field.ofNat 1) with
  | some x => some (ofAffine (if n / signBit % 2 = 1 then -x else x) y)
  | none => none

/-- The base point: the even `x` over four fifths. -/
def base : Point :=
  let y := Field.ofNat 4 * Field.inverse (Field.ofNat 5)
  let y2 := y * y
  match Field.evenRoot? (y2 - Field.ofNat 1) (edwardsD * y2 + Field.ofNat 1) with
  | some x => ofAffine x y
  | none => zero

end Point

end MetaLedger.Ed25519
