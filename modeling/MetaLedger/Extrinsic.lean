import MetaLedger.Call
import MetaLedger.Digest.Blake2b
import MetaLedger.Identity
import MetaLedger.Record

/-!
# Signed transactions

A transaction is a call with the nonce and tip of its signer. What is signed is the call, the nonce
and tip, and the chain it is meant for; a payload of more than 256 bytes is signed as its digest.
On the wire the signature stands in front and the chain is left out. Only one form is read: the
version that is written, an account id, an Ed25519 signature, and the shortest integers.
-/

namespace MetaLedger

/-- How long a transaction may wait: without limit. -/
inductive Era where
  | immortal
deriving DecidableEq

namespace Era

def codec : Scale.Codec Era where
  encode _ := [0]
  read := do
    match ← Scale.Reader.inside (.variantByte "Era") Scale.Reader.byte with
    | 0 => return immortal
    | _ => Scale.Reader.fail (.unknownVariant "Era")
  Fits _ := True

end Era

/-- What travels with a call and is signed with it. -/
structure Extra where
  nonce : Nonce
  tip : Amount := 0
  era : Era := .immortal
deriving DecidableEq

namespace Extra

def codec : Scale.Codec Extra :=
  (Era.codec.field "SignedExtra::era").pair
    ((Scale.Codec.compactWord.field "SignedExtra::nonce").pair
      (Scale.Codec.compactWide.field "SignedExtra::tip"))
  |>.iso (fun (era, nonce, tip) => ⟨nonce, tip, era⟩) (fun x => (x.era, x.nonce, x.tip))

def encode (x : Extra) : Bytes := codec.encode x

end Extra

/-- What is signed for a chain and never sent: its versions, and its genesis twice, once as the
block the transaction's life is counted from. -/
def ChainBinding.additional (chain : ChainBinding) : Bytes :=
  Bytes.ofNatLE 4 chain.version.spec.toNat ++ Bytes.ofNatLE 4 chain.version.transaction.toNat
    ++ chain.genesis.bytes ++ chain.genesis.bytes

/-- A payload longer than this is signed as its digest. -/
def maxPlainPayload : Nat := 256

/-- What the signer of a transaction signs. -/
def signingPayload (call : EncodedCall) (extra : Extra) (chain : ChainBinding) : Bytes :=
  let payload := call.raw ++ extra.encode ++ chain.additional
  if payload.length ≤ maxPlainPayload then payload else (Digest.blake2b256 payload).toList

/-- A signed transaction. -/
structure Extrinsic where
  signer : AccountId
  signature : Ed25519.Signature
  extra : Extra
  call : EncodedCall
deriving DecidableEq

namespace Extrinsic

/-- The first byte: signed, version four. -/
def versionByte : UInt8 := 0x84

/-- The mark of an account id among the forms of an address. -/
def accountMark : UInt8 := 0

/-- The mark of Ed25519 among the forms of a signature. -/
def ed25519Mark : UInt8 := 0

def nonce (x : Extrinsic) : Nonce := x.extra.nonce

/-- The transaction without its length. -/
def body (x : Extrinsic) : Bytes :=
  versionByte :: accountMark :: x.signer.bytes ++ ed25519Mark :: x.signature.toList
    ++ x.extra.encode ++ x.call.raw

/-- The transaction as it is sent: its length and its body. -/
def encode (x : Extrinsic) : Bytes := Scale.encodeCompact x.body.length ++ x.body

/-- Takes a value from the front of `input`, or fails as the codec does. -/
def take {α : Type} (r : Scale.Reader α) (input : Bytes) : Except Failure (α × Bytes) :=
  match r input with
  | .ok result => .ok result
  | .error e => .error (.codec e)

/-- A signature is written as its 64 bytes. -/
def signatureCodec : Scale.Codec Ed25519.Signature :=
  (Scale.Codec.fixed 64).field "Ed25519Signature.0"

/-- Reads the body of a transaction. -/
def decodeBody (body : Bytes) : Except Failure Extrinsic := do
  let (version, rest) ← take Scale.Reader.byte body
  if version ≠ versionByte then throw (.unsupportedExtrinsic (.version version))
  let (mark, rest) ← take Scale.Reader.byte rest
  if mark ≠ accountMark then throw (.unsupportedExtrinsic .address)
  let (signer, rest) ← take AccountId.codec.read rest
  let (mark, rest) ← take Scale.Reader.byte rest
  if mark ≠ ed25519Mark then throw (.unsupportedExtrinsic .signature)
  let (signature, rest) ← take signatureCodec.read rest
  let (extra, rest) ← take Extra.codec.read rest
  if rest.length < 2 then throw (.decoding .missingCallIndex)
  return ⟨signer, signature, extra, ⟨rest⟩⟩

/-- Reads a transaction as it is sent; its length is that of the rest of the input. -/
def decode (wire : Bytes) : Except Failure Extrinsic := do
  let (announced, body) ← take (Scale.compact .u32) wire
  if body.length ≠ announced then throw (.decoding (.lengthPrefix announced body.length))
  decodeBody body

/-- The digest of the transaction as it is sent. -/
def hash (x : Extrinsic) : TxHash := ⟨Digest.blake2b256 x.encode⟩

/-- Checks the signature for a chain. -/
def verify (x : Extrinsic) (chain : ChainBinding) : Except Failure Unit :=
  match Ed25519.verify x.signer.raw (signingPayload x.call x.extra chain) x.signature with
  | .valid => .ok ()
  | .invalidKey => .error .invalidPublicKey
  | .invalidSignature => .error .invalidSignature

end Extrinsic

end MetaLedger
