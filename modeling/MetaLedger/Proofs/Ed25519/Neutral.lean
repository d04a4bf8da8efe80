import MetaLedger.Signer

/-!
# Public keys that name the neutral point

Verification accepts public keys of small order. Under a key that reads as the neutral point, the
commitment of a signature is its scalar times the base point whatever the challenge is, so the neutral
point with the scalar zero signs every message (`verify_neutral`). Doubling and adding lead from
neutral points to neutral points (`Neutral.double`, `Neutral.add`), in coordinates that may be scaled
by any invertible element. Two accounts have such keys (`neutralKey`, `signedNeutralKey`), and what is
signed for them needs no secret.
-/

namespace MetaLedger.Ed25519

theorem prime_ne_zero : prime ≠ 0 := by decide

instance : @NeZero Nat Zero.ofOfNat0 prime := ⟨prime_ne_zero⟩

namespace Field

/-- An element that `inverse` does invert. -/
def Invertible (x : Field) : Prop := x * x.inverse = 1

theorem power_mul (x y : Field) (exponent : Nat) :
    power (x * y) exponent = power x exponent * power y exponent := by
  have hfold : ∀ (bits : List Nat) (u v : Field),
      bits.foldl (fun acc i =>
        let acc := acc * acc
        if exponent.testBit i then acc * (x * y) else acc) (u * v) =
      bits.foldl (fun acc i =>
        let acc := acc * acc
        if exponent.testBit i then acc * x else acc) u *
      bits.foldl (fun acc i =>
        let acc := acc * acc
        if exponent.testBit i then acc * y else acc) v := by
    intro bits
    induction bits with
    | nil => exact fun u v => rfl
    | cons i bits ih =>
      intro u v
      have hsquare : u * v * (u * v) = u * u * (v * v) := by grind
      have hstep : u * u * (v * v) * (x * y) = u * u * x * (v * v * y) := by grind
      simp only [List.foldl_cons, hsquare]
      cases exponent.testBit i
      · exact ih _ _
      · simp only [if_true, hstep]
        exact ih _ _
  exact hfold _ (ofNat 1) (ofNat 1)

theorem Invertible.mul {x y : Field} (hx : x.Invertible) (hy : y.Invertible) :
    (x * y).Invertible := by
  have hswap : x * y * (x.inverse * y.inverse) = x * x.inverse * (y * y.inverse) := by grind
  show x * y * power (x * y) (prime - 2) = 1
  rw [power_mul]
  exact hswap.trans (by rw [hx, hy]; rfl)

theorem invertible_one : Invertible 1 := by
  unfold Invertible
  decide +kernel

theorem invertible_neg_one : Invertible (-1) := by
  unfold Invertible
  decide +kernel

theorem invertible_four : Invertible 4 := by
  unfold Invertible
  decide +kernel

end Field

namespace Point

/-- A written form of the neutral point. -/
structure Neutral (p : Point) : Prop where
  x_eq : p.x = 0
  y_eq : p.y = p.z
  t_eq : p.t = 0
  invertible : p.z.Invertible

variable {p q : Point}

theorem neutral_zero : zero.Neutral := ⟨rfl, rfl, rfl, Field.invertible_one⟩

theorem Neutral.double (h : p.Neutral) : p.double.Neutral := by
  obtain ⟨hx, hy, -, hz⟩ := h
  have hdouble : p.double = ⟨0, -1 * (p.z * p.z * (p.z * p.z)), -1 * (p.z * p.z * (p.z * p.z)), 0⟩ := by
    unfold Point.double
    rw [hx, hy]
    refine (Point.mk.injEq ..).mpr ⟨?_, ?_, ?_, ?_⟩ <;> grind
  rw [hdouble]
  exact ⟨rfl, rfl, rfl, Field.invertible_neg_one.mul ((hz.mul hz).mul (hz.mul hz))⟩

theorem Neutral.add (hp : p.Neutral) (hq : q.Neutral) : (p.add q).Neutral := by
  obtain ⟨hpx, hpy, hpt, hpz⟩ := hp
  obtain ⟨hqx, hqy, hqt, hqz⟩ := hq
  have hadd : p.add q = ⟨0, 4 * (p.z * q.z * (p.z * q.z)), 4 * (p.z * q.z * (p.z * q.z)), 0⟩ := by
    unfold Point.add
    rw [hpx, hpy, hpt, hqx, hqy, hqt]
    refine (Point.mk.injEq ..).mpr ⟨?_, ?_, ?_, ?_⟩ <;> grind
  rw [hadd]
  exact ⟨rfl, rfl, rfl, Field.invertible_four.mul ((hpz.mul hqz).mul (hpz.mul hqz))⟩

/-- Multiples of the neutral point are neutral, and so is the zeroth of any point. -/
theorem neutral_multiple {n : Nat} (h : n = 0 ∨ p.Neutral) : (p.multiple n).Neutral := by
  have hfold : ∀ (bits : List Nat) (acc : Point), acc.Neutral →
      (bits.foldl (fun acc i =>
        let acc := acc.double
        if n.testBit i then acc.add p else acc) acc).Neutral := by
    intro bits
    induction bits with
    | nil => exact fun acc hacc => hacc
    | cons i bits ih =>
      intro acc hacc
      rw [List.foldl_cons]
      refine ih _ ?_
      show (if n.testBit i then acc.double.add p else acc.double).Neutral
      split
      · next hbit =>
        rcases h with rfl | h
        · rw [Nat.zero_testBit] at hbit
          cases hbit
        · exact hacc.double.add h
      · exact hacc.double
  exact hfold _ _ neutral_zero

end Point

/-- The shortest written form of the neutral point: `y` is one. -/
def neutralKey : Fixed 32 := ⟨Bytes.ofNatLE 32 1, Bytes.length_ofNatLE 32 1⟩

/-- The neutral point with the sign of its `x`, which is zero, set. -/
def signedNeutralKey : Fixed 32 :=
  ⟨Bytes.ofNatLE 32 (signBit + 1), Bytes.length_ofNatLE 32 (signBit + 1)⟩

/-- All coordinates of the neutral point are written as the same bytes. -/
theorem Point.Neutral.encode_eq {p : Point} (h : p.Neutral) : p.encode = neutralKey := by
  obtain ⟨hx, hy, -, hz⟩ := h
  have hzero : p.x * p.z.inverse = 0 := by
    rw [hx]
    grind
  have hone : p.y * p.z.inverse = 1 := by
    rw [hy]
    exact hz
  unfold encode
  refine Fixed.ext ?_
  simp only [hzero, hone]
  rfl

/-- A public key that reads as the neutral point. -/
def NamesNeutral (key : Fixed 32) : Prop := ∃ p, Point.decode? key = some p ∧ p.Neutral

/-- The curve has the `x` zero where `y` is one. -/
theorem evenRoot?_one : Field.evenRoot? (Field.ofNat 1 * Field.ofNat 1 - Field.ofNat 1)
    (edwardsD * (Field.ofNat 1 * Field.ofNat 1) + Field.ofNat 1) = some 0 := by decide +kernel

theorem neutralKey_namesNeutral : NamesNeutral neutralKey := by
  have hnumber : Bytes.toNatLE neutralKey.toList = 1 := by decide
  have hy : 1 % signBit = 1 := by decide
  have hsign : 1 / signBit % 2 = 0 := by decide
  refine ⟨.ofAffine 0 (Field.ofNat 1), ?_, rfl, rfl, rfl, Field.invertible_one⟩
  unfold Point.decode?
  simp only [hnumber, hy, hsign, evenRoot?_one, Nat.zero_ne_one, if_false]

theorem signedNeutralKey_namesNeutral : NamesNeutral signedNeutralKey := by
  have hnumber : Bytes.toNatLE signedNeutralKey.toList = signBit + 1 := by decide
  have hy : (signBit + 1) % signBit = 1 := by decide
  have hsign : (signBit + 1) / signBit % 2 = 1 := by decide
  refine ⟨.ofAffine (-0) (Field.ofNat 1), ?_, rfl, rfl, rfl, Field.invertible_one⟩
  unfold Point.decode?
  simp only [hnumber, hy, hsign, evenRoot?_one, if_true]

def neutralSignature : Signature :=
  ⟨neutralKey.toList ++ Bytes.ofNatLE 32 0, by
    rw [List.length_append, neutralKey.length_eq, Bytes.length_ofNatLE]⟩

/-- One signature holds for every message. -/
theorem verify_neutral {key : Fixed 32} (h : NamesNeutral key) (message : Bytes) :
    verify key message neutralSignature = .valid := by
  obtain ⟨p, hp, hneutral⟩ := h
  have hneg : p.neg.Neutral := by
    obtain ⟨hx, hy, ht, hz⟩ := hneutral
    refine ⟨?_, hy, ?_, hz⟩
    · show -p.x = 0
      rw [hx]
      rfl
    · show -p.t = 0
      rw [ht]
      rfl
  have hscalar : neutralSignature.scalar = 0 := by decide
  have hcommitment : neutralSignature.commitment = neutralKey.toList := by decide
  have horder : 0 < groupOrder := by decide
  have hcommit (k : Nat) : ((Point.base.multiple 0).add (p.neg.multiple k)).encode = neutralKey :=
    ((Point.neutral_multiple (.inl rfl)).add (Point.neutral_multiple (.inr hneg))).encode_eq
  unfold verify
  simp only [hp, hscalar, horder, if_true, hcommitment]
  rw [hcommit, if_pos rfl]

end MetaLedger.Ed25519

namespace MetaLedger

/-- Signs for the account of a key that names the neutral point. -/
def Signer.neutral (key : Fixed 32) : Signer := ⟨⟨key⟩, fun _ => .ok Ed25519.neutralSignature⟩

def Extrinsic.neutral (key : Fixed 32) (nonce : Nonce) (call : EncodedCall) : Extrinsic where
  signer := ⟨key⟩
  signature := Ed25519.neutralSignature
  extra := { nonce }
  call := call

theorem Extrinsic.verify_neutral {key : Fixed 32} (h : Ed25519.NamesNeutral key) (nonce : Nonce)
    (call : EncodedCall) (chain : ChainBinding) :
    (Extrinsic.neutral key nonce call).verify chain = .ok () := by
  have hvalid := Ed25519.verify_neutral h (signingPayload call { nonce } chain)
  unfold Extrinsic.verify Extrinsic.neutral
  rw [hvalid]

end MetaLedger
