import MetaLedger.Json.Value
import MetaLedger.Store.Error

/-!
# Reports on errors

How an error is told in JSON: by the name of its kind and its message. An error of a store also tells
the kind of what caused it, the operation and step, and what a caller may want to branch on.
-/

namespace MetaLedger.Report

/-- Bytes as hexadecimal digits. -/
def hex (bytes : Bytes) : Json := Json.ofString (Hex.encode bytes)

/-- What is there, or null. -/
def orNull {α : Type} (f : α → Json) : Option α → Json
  | some x => f x
  | none => .null

/-- A result, or the report on its error. -/
def result {ε α : Type} (onError : ε → Json) (f : α → Json) : Except ε α → Json
  | .ok x => f x
  | .error e => onError e

/-- An error that is told by its kind alone. -/
def bare (kind : String) : Json := Json.record [("error", Json.ofString kind)]

def told (kind message : String) : List (String × Json) :=
  [("error", Json.ofString kind), ("message", Json.ofString message)]

def failureKind : Failure → String
  | .encoding _ => "Encoding"
  | .decoding _ => "Decoding"
  | .addressDerivation _ => "AddressDerivation"
  | .prefixMismatch .. => "PrefixMismatch"
  | .invalidSignature => "InvalidSignature"
  | .invalidPublicKey => "InvalidPublicKey"
  | .signing _ => "Signing"
  | .unsupportedExtrinsic _ => "UnsupportedExtrinsic"
  | .unknownPallet _ => "UnknownPallet"
  | .unknownCall .. => "UnknownCall"
  | .unknownStorage .. => "UnknownStorage"

def failure (e : Failure) : Json := Json.record (told (failureKind e) e.message)

def hexError (e : Hex.Error) : Json := Json.record (told "FromHex" e.message)

def rejectionName : Node.Rejection → String
  | .stale => "Stale"
  | .future => "Future"
  | .priorityTooLow => "PriorityTooLow"
  | .badProof => "BadProof"
  | .payment => "Payment"
  | .malformed => "Malformed"

/-- The refusal of a name. -/
def rejectionOfName? (name : String) : Option Node.Rejection :=
  [.stale, .future, .priorityTooLow, .badProof, .payment, .malformed].find?
    (rejectionName · == name)

def nodeErrorKind : Node.Error → String
  | .transport _ => "Transport"
  | .rpc .. => "Rpc"
  | .rejected _ => "Rejected"
  | .decode _ => "Decode"
  | .unknownBlock _ => "UnknownBlock"
  | .unsupported _ => "Unsupported"
  | .closed => "Closed"

/-- The pool's reason, where there is one. -/
def reason (e : Node.Error) : List (String × Json) :=
  match e.rejection? with
  | some reason => [("reason", Json.ofString (rejectionName reason))]
  | none => []

def nodeError (e : Node.Error) : Json :=
  Json.record (told (nodeErrorKind e) e.message ++ reason e)

/-- The kind of a cause, and the kind of the error inside it. -/
def causeKind : Store.Cause → String × Option String
  | .encoding e => ("Encoding", some (failureKind e))
  | .addressDerivation e => ("AddressDerivation", some (failureKind e))
  | .chainQuery e => ("ChainQuery", some (nodeErrorKind e))
  | .notFound => ("NotFound", none)
  | .signing e => ("Signing", some (failureKind e))
  | .submission e => ("Submission", some (nodeErrorKind e))
  | .dispatch .. => ("Dispatch", none)
  | .schema e => ("Schema", some (failureKind e))
  | .config _ => ("Config", none)
  | .updateAborted _ => ("UpdateAborted", none)
  | .closed => ("Closed", none)

def storeErrorMembers (e : Store.Error) : List (String × Json) :=
  let (kind, inner) := causeKind e.cause
  told kind e.message ++
    [("inner", orNull Json.ofString inner),
      ("op", orNull (fun op => Json.ofString op.name) e.operation?),
      ("step", orNull (fun step => Json.ofString step.name) e.step?),
      ("not_found", .bool e.isNotFound),
      ("closed", .bool e.isClosed),
      ("rejection", orNull (fun r => Json.ofString (rejectionName r)) e.rejection?)]

def storeError (e : Store.Error) : Json := Json.record (storeErrorMembers e)

end MetaLedger.Report
