import MetaLedger.Digest.Sha512
import MetaLedger.Ed25519.Curve

/-!
# Ed25519 signatures

Signing is deterministic. Verifying accepts every public key that names a point of the curve, small
order and second written forms included; it refuses a scalar not below the group order, and
compares the bytes of the commitment, so a signature has one accepted form for each key.
-/

namespace MetaLedger.Ed25519

/-- The order of the base point. -/
def groupOrder : Nat := (1 <<< 252) + 27742317777372353535851937790883648493

/-- The scalar that a message digest stands for. -/
def scalar (digest : Fixed 64) : Nat := Bytes.toNatLE digest.toList % groupOrder

/-- The challenge of a signature. -/
def challenge (commitment key message : Bytes) : Nat :=
  scalar (Digest.sha512 (commitment ++ key ++ message))

/-- A 64-byte signature: the commitment and the scalar. -/
abbrev Signature := Fixed 64

namespace Signature

def commitment (s : Signature) : Bytes := s.toList.take 32

def scalar (s : Signature) : Nat := Bytes.toNatLE (s.toList.drop 32)

end Signature

/-- The secret of a key pair: the scalar, the seed of the commitments, and the public key. -/
structure Secret where
  scalar : Nat
  nonceSeed : Bytes
  publicKey : Fixed 32

namespace Secret

/-- The scalar with its lowest three and highest bit cleared and its second highest set. -/
def clamp (n : Nat) : Nat :=
  let high := 1 <<< 254
  n % high / 8 * 8 + high

def ofSeed (seed : Fixed 32) : Secret :=
  let digest := (Digest.sha512 seed.toList).toList
  let scalar := clamp (Bytes.toNatLE (digest.take 32))
  ⟨scalar, digest.drop 32, (Point.base.multiple scalar).encode⟩

def sign (s : Secret) (message : Bytes) : Signature :=
  let r := Ed25519.scalar (Digest.sha512 (s.nonceSeed ++ message))
  let commitment := (Point.base.multiple r).encode
  let k := challenge commitment.toList s.publicKey.toList message
  ⟨commitment.toList ++ Bytes.ofNatLE 32 ((r + k * s.scalar) % groupOrder), by
    simp [commitment.length_eq]⟩

end Secret

/-- What a signature is found to be. -/
inductive Verdict where
  | valid
  | invalidKey
  | invalidSignature
deriving DecidableEq

/-- Checks a signature of `message` under `key`: first the key, then the signature. -/
def verify (key : Fixed 32) (message : Bytes) (signature : Signature) : Verdict :=
  match Point.decode? key with
  | none => .invalidKey
  | some a =>
    if signature.scalar < groupOrder then
      let k := challenge signature.commitment key.toList message
      let commitment := (Point.base.multiple signature.scalar).add (a.neg.multiple k)
      if commitment.encode.toList = signature.commitment then .valid else .invalidSignature
    else .invalidSignature

end MetaLedger.Ed25519
