import MetaLedger.Extrinsic

/-!
# Signers

Whoever signs for an account: a key pair held here, or a device that may refuse. A signer's word on
which account it signs for is taken as it is; the ledger checks it.
-/

namespace MetaLedger

/-- Signs for one account, or says why not. -/
structure Signer where
  account : AccountId
  sign : Bytes → Except Failure Ed25519.Signature

namespace Signer

/-- The signer whose key pair is made from a seed. -/
def ofSeed (seed : Fixed 32) : Signer :=
  let secret := Ed25519.Secret.ofSeed seed
  ⟨⟨secret.publicKey⟩, fun payload => .ok (secret.sign payload)⟩

/-- Reads a seed of 64 hexadecimal digits, with or without `0x`. -/
def seedOfHex (s : String) : Except Failure (Fixed 32) :=
  match Hex.decode s with
  | .error e => .error (.signing (.seedText e))
  | .ok bytes =>
    match Fixed.ofList? 32 bytes with
    | some seed => .ok seed
    | none => .error (.signing (.seedLength bytes.length))

/-- Signs a call for a chain, without a tip. -/
def extrinsic (signer : Signer) (chain : ChainBinding) (nonce : Nonce) (call : EncodedCall) :
    Except Failure Extrinsic :=
  let extra : Extra := ⟨nonce, 0, .immortal⟩
  match signer.sign (signingPayload call extra chain) with
  | .ok signature => .ok ⟨signer.account, signature, extra, call⟩
  | .error e => .error e

end Signer

end MetaLedger
