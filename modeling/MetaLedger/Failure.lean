import MetaLedger.Layout
import MetaLedger.Scale.Error
import MetaLedger.Text.Hex

/-!
# Failures of the building blocks

Why bytes, addresses, signatures or names are refused. A failure reported by someone else (a signer,
a node) is carried as the text it came with.
-/

namespace MetaLedger

/-- Why a value does not decode. -/
inductive DecodingCause where
  | codec (error : Scale.Error)
  | lengthPrefix (announced found : Nat)
  | afterRecord (count : Nat)
  | afterArguments (count : Nat) (kind : CallKind)
  | missingCallIndex
  | reported (text : String)
deriving DecidableEq

namespace DecodingCause

def message : DecodingCause → String
  | codec error => error.message
  | lengthPrefix announced found =>
    "length prefix says " ++ toString announced ++ " bytes, found " ++ toString found
  | afterRecord count => toString count ++ " trailing bytes after stored record"
  | afterArguments count kind =>
    toString count ++ " trailing bytes after " ++ kind.name ++ " call arguments"
  | missingCallIndex => "missing call index"
  | reported text => text

end DecodingCause

/-- Why a signed transaction is of a kind that is not handled. -/
inductive UnsupportedCause where
  | version (byte : UInt8)
  | address
  | signature
  | reported (text : String)
deriving DecidableEq

namespace UnsupportedCause

def message : UnsupportedCause → String
  | version byte => "version byte " ++ Hex.encode0x [byte]
  | address => "address is not an account id"
  | signature => "signature is not ed25519"
  | reported text => text

end UnsupportedCause

/-- Why nothing was signed. -/
inductive SigningCause where
  | seedText (error : Hex.Error)
  | seedLength (count : Nat)
  | reported (text : String)
deriving DecidableEq

namespace SigningCause

def message : SigningCause → String
  | seedText error => "invalid seed hex: " ++ error.message
  | seedLength count => "seed must be 32 bytes, got " ++ toString count
  | reported text => text

end SigningCause

/-- Why an address could not be derived. -/
inductive AddressCause where
  | componentTooLong (component : String) (count : Nat)
  | reported (text : String)
deriving DecidableEq

namespace AddressCause

def message : AddressCause → String
  | componentTooLong component count =>
    component ++ " of " ++ toString count ++ " bytes exceeds the SCALE length limit"
  | reported text => text

end AddressCause

/-- Why bytes, an address, a signature or a name is refused. -/
inductive Failure where
  | encoding (text : String)
  | decoding (cause : DecodingCause)
  | addressDerivation (cause : AddressCause)
  | prefixMismatch (expected address : String)
  | invalidSignature
  | invalidPublicKey
  | signing (cause : SigningCause)
  | unsupportedExtrinsic (cause : UnsupportedCause)
  | unknownPallet (pallet : String)
  | unknownCall (pallet call : String)
  | unknownStorage (pallet item : String)
deriving DecidableEq

namespace Failure

def message : Failure → String
  | encoding text => "encoding error: " ++ text
  | decoding cause => "decoding error: " ++ cause.message
  | addressDerivation cause => "address derivation error: " ++ cause.message
  | prefixMismatch expected address =>
    "address " ++ address ++ " is not under prefix " ++ expected
  | invalidSignature => "invalid signature"
  | invalidPublicKey => "invalid public key"
  | signing cause => "signing failed: " ++ cause.message
  | unsupportedExtrinsic cause => "unsupported extrinsic: " ++ cause.message
  | unknownPallet pallet => "pallet " ++ pallet ++ " is not in the runtime schema"
  | unknownCall pallet call =>
    "call " ++ pallet ++ "." ++ call ++ " is not in the runtime schema"
  | unknownStorage pallet item =>
    "storage item " ++ pallet ++ "." ++ item ++ " is not in the runtime schema"

/-- A failure of the codec. -/
def codec (error : Scale.Error) : Failure := decoding (.codec error)

end Failure

end MetaLedger
