import MetaLedger.Identity

/-!
# Why a node does not answer

The refusals of a transaction pool (`Rejection`), and the failures of a node (`Error`): on the way to
it, in its answer, or by its own decision.
-/

namespace MetaLedger.Node

/-- Why the pool refused a transaction. -/
inductive Rejection where
  /-- The nonce has been used. -/
  | stale
  /-- The nonce is too far ahead to be held. -/
  | future
  /-- A waiting transaction has the nonce. -/
  | priorityTooLow
  /-- The signature does not hold for this chain. -/
  | badProof
  /-- The signer cannot pay. -/
  | payment
  /-- There is no such call. -/
  | malformed
deriving DecidableEq

namespace Rejection

def message : Rejection → String
  | stale => "stale nonce"
  | future => "future nonce"
  | priorityTooLow => "priority too low (nonce already pending)"
  | badProof => "bad signature"
  | payment => "inability to pay fees"
  | malformed => "malformed transaction"

end Rejection

/-- What failed on the way to a node or back. -/
inductive TransportCause where
  /-- A status that is no success, as number and name, and the body that came with it. -/
  | status (code : Nat) (name : String) (body : String)
  /-- The statuses of a transaction ended before a block was named. -/
  | subscriptionEnded
  /-- The connection was closed without an answer. -/
  | noAnswer
  | reported (text : String)
deriving DecidableEq

namespace TransportCause

def message : TransportCause → String
  | status code name body => "HTTP " ++ toString code ++ " " ++ name ++ ": " ++ body
  | subscriptionEnded => "subscription ended before the transaction was included"
  | noAnswer => "no answer"
  | reported text => text

end TransportCause

/-- What is wrong with an answer. -/
inductive AnswerCause where
  /-- The metadata does not decode. -/
  | unreadableMetadata
  /-- The metadata does not begin with its mark. -/
  | badMagic (found : UInt32)
  | callTypeMissing (pallet : String) (id : Nat)
  | callTypeNoEnum (pallet : String)
  | invalidHex (text : String) (error : Hex.Error)
  | hashLength (count : Nat)
  | noGenesis
  /-- A failed call names a pallet that the metadata does not have. -/
  | errorPalletMissing (index : UInt8)
  /-- A failed call names an error that its pallet does not have. -/
  | errorVariantMissing (index : UInt8)
  /-- The text is no JSON, or not of the expected shape. -/
  | unexpectedJson
  | reported (text : String)
deriving DecidableEq

namespace AnswerCause

/-- Eight hexadecimal digits of a word, behind `0x`. -/
def wordText (w : UInt32) : String := Hex.encode0x (Bytes.ofNatLE 4 w.toNat).reverse

def message : AnswerCause → String
  | unreadableMetadata => "runtime metadata"
  | badMagic found => "runtime metadata: bad magic " ++ wordText found
  | callTypeMissing pallet id =>
    pallet ++ ": call type " ++ toString id ++ " not in registry"
  | callTypeNoEnum pallet => pallet ++ ": call type is not an enum"
  | invalidHex text error => "invalid hex " ++ Text.quoteString text ++ ": " ++ error.message
  | hashLength count => "expected 32-byte hash, got " ++ toString count ++ " bytes"
  | noGenesis => "node reports no genesis block"
  | errorPalletMissing index => "Pallet with index " ++ toString index ++ " not found"
  | errorVariantMissing index => "Variant with index " ++ toString index ++ " not found"
  | unexpectedJson => "unexpected JSON"
  | reported text => text

end AnswerCause

/-- What a node does not offer. -/
inductive UnsupportedCause where
  | oldMetadata
  | noWatchEndpoint
  | reported (text : String)
deriving DecidableEq

namespace UnsupportedCause

def message : UnsupportedCause → String
  | oldMetadata => "runtime metadata older than format 14"
  | noWatchEndpoint => "inclusion watching requires a websocket endpoint"
  | reported text => text

end UnsupportedCause

/-- Why a node does not answer. -/
inductive Error where
  | transport (cause : TransportCause)
  | rpc (code : Int) (message : String)
  | rejected (reason : Rejection)
  | decode (cause : AnswerCause)
  | unknownBlock (block : BlockHash)
  | unsupported (cause : UnsupportedCause)
  | closed
deriving DecidableEq

namespace Error

def message : Error → String
  | transport cause => "transport error: " ++ cause.message
  | rpc code message => "rpc error " ++ toString code ++ ": " ++ message
  | rejected reason => "transaction rejected: " ++ reason.message
  | decode cause => "decode error: " ++ cause.message
  | unknownBlock block => "unknown block " ++ block.text
  | unsupported cause => "unsupported: " ++ cause.message
  | closed => "node connection closed"

/-- The pool's reason, if it refused. -/
def rejection? : Error → Option Rejection
  | rejected reason => some reason
  | _ => none

end Error

end MetaLedger.Node
