import MetaLedger.Ledger.State

/-!
# Executing transactions

What a transaction does to the entries. Its nonce is counted whatever becomes of its call; a call that
is refused changes nothing else. A record is changed and removed by its owner only, and nobody
changes the owner.
-/

namespace MetaLedger.Ledger

namespace Rules

/-- Counts a transaction of an account. -/
def bumpNonce (r : Rules) (account : AccountId) (e : Entries) : Entries :=
  let info := (r.accountInfo? e account).getD .fresh
  e.insert (r.keys.accountAddress account) { info with nonce := info.nonce.next }.encode

/-- The record at an address, if there is one. -/
def record? (e : Entries) (address : Address) : Except Failure (Option Record) :=
  match e.get? address with
  | none => .ok none
  | some raw =>
    match Record.decode raw with
    | .ok record => .ok (some record)
    | .error failure => .error failure

/-- What a call does to the record at its address. -/
def apply (signer : AccountId) (call : Call) (address : Address) (existing : Option Record)
    (e : Entries) : Except DispatchError (Entries × Event) :=
  match call, existing with
  | .set _ _ _, some _ => .error .metadataExists
  | .set ns key data, none =>
    .ok (e.insert address (Record.encode ⟨data, signer⟩), .created ns key signer)
  | .delete _ _, none => .error .metadataNotFound
  | .delete ns key, some record =>
    if record.owner = signer then .ok (e.erase address, .removed ns key signer)
    else .error .noPermissions
  | .update _ _ _, none => .error .metadataNotFound
  | .update ns key data, some record =>
    if record.owner = signer then
      .ok (e.insert address (Record.encode { record with data }), .updated ns key signer)
    else .error .noPermissions

/-- Executes a call. An address or record that cannot be worked with is an error of its own. -/
def dispatch (r : Rules) (signer : AccountId) (call : Call) (e : Entries) :
    Except DispatchError (Entries × Event) :=
  match r.keys.deriveAddress call.ns call.key with
  | .error failure => .error (.other failure.message)
  | .ok address =>
    match record? e address with
    | .error failure => .error (.other failure.message)
    | .ok existing => apply signer call address existing e

/-- A transaction of a block with what came of it. -/
structure Executed where
  hash : TxHash
  event : Event

/-- The outcome that an event stands for. -/
def outcomeOf : Event → Outcome
  | .failed reason => .failed reason
  | _ => .success

/-- Executes a transaction: counts its nonce, then its call. -/
def execute (r : Rules) (e : Entries) (tx : PoolEntry) : Entries × Executed :=
  let counted := r.bumpNonce tx.signer e
  match r.dispatch tx.signer tx.call counted with
  | .ok (changed, event) => (changed, ⟨tx.hash, event⟩)
  | .error reason => (counted, ⟨tx.hash, .failed reason⟩)

/-- Executes transactions in their order. -/
def executeAll (r : Rules) (e : Entries) : List PoolEntry → Entries × List Executed
  | [] => (e, [])
  | tx :: rest =>
    let (e, executed) := r.execute e tx
    let (e, others) := r.executeAll e rest
    (e, executed :: others)

end Rules

end MetaLedger.Ledger
