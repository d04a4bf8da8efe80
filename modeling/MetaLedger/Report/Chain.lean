import MetaLedger.Json.Chain
import MetaLedger.Ledger.State
import MetaLedger.Report.Error
import MetaLedger.Store.Session

/-!
# Reports on a chain

How calls, transactions, schemas, sessions, receipts, events and requests are told in JSON. Numbers
that may be too large for a JSON reader are told as decimal text.
-/

namespace MetaLedger.Report

def done : Json := Json.record [("ok", .bool true)]

def callIndex (i : CallIndex) : Json :=
  .array [Json.ofNat i.pallet.toNat, Json.ofNat i.call.toNat]

def call (c : Call) : Json :=
  Json.record ([("kind", Json.ofString c.kind.name), ("ns", hex c.ns), ("key", hex c.key)]
    ++ match c with
      | .set _ _ data | .update _ _ data => [("meta", hex data)]
      | .delete .. => [])

def extrinsicMembers (x : Extrinsic) : List (String × Json) :=
  [("signer", hex x.signer.bytes), ("signature", hex x.signature.toList),
    ("nonce", Json.ofNat x.nonce.toNat), ("tip", Json.ofString (toString x.extra.tip.toNat)),
    ("call", hex x.call.raw), ("encoded", hex x.encode), ("hash", hex x.hash.bytes)]

def chain (c : ChainBinding) : Json :=
  Json.record [("genesis", hex c.genesis.bytes), ("spec", Json.ofNat c.version.spec.toNat),
    ("tx", Json.ofNat c.version.transaction.toNat)]

def pallet (p : PalletSchema) : Json :=
  Json.record [("name", Json.ofString p.name), ("index", Json.ofNat p.index.toNat),
    ("calls", .array (p.calls.map fun c =>
      .array [Json.ofString c.name, Json.ofNat c.index.toNat])),
    ("storage", .array (p.storage.map Json.ofString))]

def schema (s : RuntimeSchema) : Json :=
  Json.record [("metadata", hex s.metadata), ("pallets", .array (s.pallets.map pallet))]

def session (s : Store.Session) : Json :=
  Json.record [("context", chain s.chain), ("genesis", hex s.chain.genesis.bytes),
    ("version", s.chain.version.toJson), ("set", callIndex (s.callIndex .set)),
    ("delete", callIndex (s.callIndex .delete)), ("update", callIndex (s.callIndex .update)),
    ("pallet", Json.ofString s.layout.pallet), ("pallets", Json.ofNat s.schema.pallets.length),
    ("empty_address", result failure hex (s.keys.deriveAddress [] []))]

def txHash (h : TxHash) : Json := Json.record [("hash", hex h.bytes)]

def blockHash (h : BlockHash) : Json := Json.record [("hash", hex h.bytes)]

def value (v : Option Bytes) : Json := Json.record [("value", orNull hex v)]

def keyList (keys : List Bytes) : Json := .array (keys.map hex)

def receipt (r : Receipt) : Json :=
  let outcome :=
    match r.outcome with
    | .success => "Success"
    | .failed reason => "Failed: " ++ reason.name
  Json.record [("tx", hex r.tx.bytes), ("block", hex r.block.bytes),
    ("number", Json.ofNat r.number), ("outcome", Json.ofString outcome),
    ("success", .bool (r.outcome = .success))]

def recordChange (kind : String) (ns key : Bytes) (owner : AccountId) : Json :=
  Json.record [("event", Json.ofString kind), ("ns", hex ns), ("key", hex key),
    ("owner", hex owner.bytes)]

def event : Ledger.Event → Json
  | .created ns key owner => recordChange "Created" ns key owner
  | .updated ns key owner => recordChange "Updated" ns key owner
  | .removed ns key owner => recordChange "Removed" ns key owner
  | .failed reason =>
    Json.record [("event", Json.ofString "Failed"), ("reason", Json.ofString reason.name)]

def loggedEvent (e : Ledger.LoggedEvent) : Json :=
  .array [Json.ofNat e.block, hex e.tx.bytes, event e.event]

def methodName : Node.Method → String
  | .runtimeSchema => "runtime_schema"
  | .genesisHash => "genesis_hash"
  | .runtimeVersion => "runtime_version"
  | .storage => "storage"
  | .keys => "storage_keys_paged"
  | .submit => "submit"
  | .submitAndWatch => "submit_and_watch"
  | .close => "close"

/-- A request, with what it asks for. -/
def request (r : Node.Request) : Json :=
  let detail : Json :=
    match r with
    | .storage address block =>
      .array [hex address, orNull (fun (b : BlockHash) => hex b.bytes) block]
    | .keys start count after _ => .array [hex start, Json.ofNat count.toNat, orNull hex after]
    | .submit x | .submitAndWatch x => hex x.encode
    | .runtimeSchema | .genesisHash | .runtimeVersion | .close => .null
  .array [Json.ofString (methodName r.method), detail]

end MetaLedger.Report
