import MetaLedger.Remote.Events
import MetaLedger.Remote.Exchange

/-!
# Waiting for inclusion

A transaction is handed in through a subscription, which then tells what becomes of it. The first
status that says it is in a block, or that it has left the pool, decides; earlier ones are passed
over. How the transaction ended is read from the events of the block.
-/

namespace MetaLedger.Remote

/-- What a subscription tells of a transaction. -/
inductive TxStatus where
  /-- It is in the pool. -/
  | validated
  | broadcasted
  /-- The block it was in is not the best one any more. -/
  | retracted
  | inBestBlock (block : BlockHash)
  | inFinalizedBlock (block : BlockHash)
  | invalid (message : String)
  | dropped (message : String)
  | failed (message : String)
deriving DecidableEq

namespace TxStatus

/-- A hash as hexadecimal text behind one `0x`. -/
def hash? : Json → Option BlockHash
  | .text (some text) =>
    match text.toList with
    | '0' :: 'x' :: digits =>
      match Hex.decodeDigits (Bytes.ofString (String.ofList digits)) with
      | .ok bytes => (Fixed.ofList? 32 bytes).map BlockHash.mk
      | .error _ => none
    | _ => none
  | _ => none

def invalidMessage : String := "Transaction is invalid (eg because of a bad nonce, signature etc)"
def droppedMessage : String := "Transaction was dropped"
def usurpedMessage : String := "Transaction was usurped by another with the same nonce"
def timeoutMessage : String := "Finality timeout"

/-- A status as the node sends it. -/
def fromJson? : Json → Option TxStatus
  | .text (some "future") => some validated
  | .text (some "ready") => some validated
  | .text (some "dropped") => some (dropped droppedMessage)
  | .text (some "invalid") => some (invalid invalidMessage)
  | .object [(some "broadcast", .array _)] => some broadcasted
  | .object [(some "inBlock", block)] => (hash? block).map inBestBlock
  | .object [(some "finalized", block)] => (hash? block).map inFinalizedBlock
  | .object [(some "retracted", block)] => (hash? block).map fun _ => retracted
  | .object [(some "usurped", other)] => (hash? other).map fun _ => invalid usurpedMessage
  | .object [(some "finalityTimeout", block)] =>
    (hash? block).map fun _ => dropped timeoutMessage
  | _ => none

/-- A status as the node sends it; what is none of the known ones ends the subscription. -/
def ofJson (w : Wording) (status : Json) : TxStatus :=
  (fromJson? status).getD (failed w.unknownStatus)

end TxStatus

/-- A node as a subscription finds it. Each answer may be missing, for a reason given in words. -/
structure WatchNode where
  /-- The metadata of the runtime, asked for when the connection is made. -/
  metadata : Except String Bytes
  /-- Takes in a transaction and tells what becomes of it. -/
  submit : Bytes → Except String (List TxStatus)
  /-- The number of a block. -/
  number : BlockHash → Except String Nat
  /-- The transactions of a block. -/
  body : BlockHash → Except String (List Bytes)
  /-- The events of a block, if there are any. -/
  events : BlockHash → Except String (Option Bytes)
  wording : Wording

namespace WatchNode

/-- An answer, or what its absence means. -/
def answer {α : Type} (result : Except String α) : Except Node.Error α :=
  result.mapError errorOfMessage

/-- The types that events are read by, which a connection starts with. -/
def connect (n : WatchNode) : Except Node.Error RuntimeTypes := do
  match RuntimeTypes.ofMetadata? (← answer n.metadata) with
  | some types => return types
  | none => throw (errorOfMessage n.wording.unreadableMetadata)

/-- The receipt for a transaction that is in a block. -/
def receipt (n : WatchNode) (types : RuntimeTypes) (x : Extrinsic) (block : BlockHash) :
    Except Node.Error Receipt := do
  let number ← answer (n.number block)
  let body ← answer (n.body block)
  match body.findIdx? (· = x.encode) with
  | none => throw (errorOfMessage n.wording.missingTransaction)
  | some position =>
    let events ← answer (n.events block)
    let outcome ← outcomeOf n.wording types position events
    return ⟨x.hash, block, number, outcome⟩

/-- Follows the statuses of a transaction to the first one that decides. -/
def follow (n : WatchNode) (types : RuntimeTypes) (x : Extrinsic) :
    List TxStatus → Except Node.Error Receipt
  | [] => .error (.transport .subscriptionEnded)
  | status :: rest =>
    match status with
    | .inBestBlock block | .inFinalizedBlock block => n.receipt types x block
    | .invalid message | .dropped message | .failed message => .error (errorOfMessage message)
    | .validated | .broadcasted | .retracted => n.follow types x rest

/-- Hands in a transaction and follows it. -/
def watch (n : WatchNode) (types : RuntimeTypes) (x : Extrinsic) : Except Node.Error Receipt := do
  n.follow types x (← answer (n.submit x.encode))

end WatchNode

/-! ## What keeps a node from answering -/

namespace RpcError

/-- The kinds of errors that have a number of their own; all others are the server's. -/
def codeText (code : Int) : String :=
  match [((-32700 : Int), "ParseError"), (-32600, "InvalidRequest"), (-32601, "MethodNotFound"),
    (-32602, "InvalidParams"), (-32603, "InternalError"), (-32007, "OversizedRequest"),
    (-32009, "ServerIsBusy")].lookup code with
  | some name => name
  | none => "ServerError(" ++ toString code ++ ")"

/-- An error as the subscription tells it. -/
def description (e : RpcError) : String :=
  let data :=
    match e.data with
    | some data => "Some(RawValue(" ++ Json.write data ++ "))"
    | none => "None"
  "Rpc error: RPC error: ErrorObject \x7b code: " ++ codeText e.code ++ ", message: "
    ++ Text.quoteString e.message ++ ", data: " ++ data ++ " \x7d"

end RpcError

/-- The number in a block's header: hexadecimal text behind `0x`, of at most 32 bits. -/
def headerNumber? (text : String) : Option Nat := do
  let '0' :: 'x' :: digits := text.toList | none
  if digits.isEmpty then none
  else
    let values ← digits.mapM fun c => Hex.digitValue? (UInt8.ofNat (min c.toNat 255))
    let n := values.foldl (fun n d => 16 * n + d.toNat) 0
    if n < UInt32.size then some n else none

end MetaLedger.Remote
