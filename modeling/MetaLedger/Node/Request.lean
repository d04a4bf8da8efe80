import MetaLedger.Extrinsic
import MetaLedger.Address
import MetaLedger.Node.Error
import MetaLedger.Schema

/-!
# What a node is asked

The eight requests that a store makes of a ledger's node, the type of the answer to each, and what an
answer may hold: the outcome of a transaction and the receipt for its inclusion. A node is whatever
answers them, so nothing here says how.
-/

namespace MetaLedger

/-- Why the metadata module refused a call. -/
inductive DispatchError where
  /-- A record was to be inserted where there is one. -/
  | metadataExists
  /-- A record was to be changed where there is none. -/
  | metadataNotFound
  /-- The signer does not own the record. -/
  | noPermissions
  /-- Any other error, by its name. -/
  | other (name : String)
deriving DecidableEq

namespace DispatchError

/-- The error of a name. -/
def ofName (name : String) : DispatchError :=
  if name = "MetadataExists" then metadataExists
  else if name = "MetadataNotFound" then metadataNotFound
  else if name = "NoPermissions" then noPermissions
  else other name

def name : DispatchError → String
  | metadataExists => "MetadataExists"
  | metadataNotFound => "MetadataNotFound"
  | noPermissions => "NoPermissions"
  | other name => name

/-- The name in diagnostics, where the names of others are told apart. -/
def label : DispatchError → String
  | other name => "Other(" ++ Text.quoteString name ++ ")"
  | e => e.name

end DispatchError

/-- How the call of an included transaction ended. -/
inductive Outcome where
  | success
  | failed (reason : DispatchError)
deriving DecidableEq

/-- The block that a transaction is in, and how it ended. -/
structure Receipt where
  tx : TxHash
  block : BlockHash
  number : Nat
  outcome : Outcome
deriving DecidableEq

namespace Node

/-- What a node is asked. A read without a block is made at the best one. -/
inductive Request where
  | runtimeSchema
  | genesisHash
  | runtimeVersion
  | storage (address : Address) (block : Option BlockHash)
  /-- Up to `count` addresses that begin with `start`, in ascending order, after `after`. -/
  | keys (start : Address) (count : UInt32) (after : Option Address) (block : Option BlockHash)
  | submit (x : Extrinsic)
  /-- Answered when the transaction is in a block. -/
  | submitAndWatch (x : Extrinsic)
  | close
deriving DecidableEq

/-- The type of a node's answer to a request. -/
abbrev Request.Answer : Request → Type
  | .runtimeSchema => RuntimeSchema
  | .genesisHash => BlockHash
  | .runtimeVersion => RuntimeVersion
  | .storage .. => Option Bytes
  | .keys .. => List Address
  | .submit _ => TxHash
  | .submitAndWatch _ => Receipt
  | .close => Unit

/-- What comes back for a request: its answer, or why there is none. -/
abbrev Request.Reply (r : Request) : Type := Except Error r.Answer

/-- The kinds of requests. -/
inductive Method where
  | runtimeSchema
  | genesisHash
  | runtimeVersion
  | storage
  | keys
  | submit
  | submitAndWatch
  | close
deriving DecidableEq

namespace Request

def method : Request → Method
  | runtimeSchema => .runtimeSchema
  | genesisHash => .genesisHash
  | runtimeVersion => .runtimeVersion
  | storage .. => .storage
  | keys .. => .keys
  | submit _ => .submit
  | submitAndWatch _ => .submitAndWatch
  | close => .close

/-- A receipt as the reply to a request, if it is one that is answered by receipts. -/
def replyOfReceipt? : (r : Request) → Except Error Receipt → Option r.Reply
  | submitAndWatch _, receipt => some receipt
  | _, _ => none

end Request

end Node

end MetaLedger
