import MetaLedger.Store.Connecting
import MetaLedger.Store.Task

/-!
# Activities

All that a client can have under way with a node: connecting a store, an operation of a store, asking
for a nonce, and handing in a transaction, with or without waiting for its inclusion. Each stops at
every request to the node and goes on with the reply, so between two requests of one activity there
may be any number of requests of others.
-/

namespace MetaLedger.Workbench

/-- What a client has under way. -/
inductive Activity where
  | connection (signer : Signer) (config : Store.Config) (step : Store.Connecting)
  | operation (op : Store.Operation) (task : Store.Task)
  | nonceQuery (session : Store.Session) (account : AccountId)
  /-- Hands a store's transaction to the pool. -/
  | submission (kind : CallKind) (x : Extrinsic)
  /-- Hands a store's transaction to the pool and waits until it is in a block. -/
  | inclusion (kind : CallKind) (x : Extrinsic)
  /-- Hands any transaction to the pool and waits until it is in a block. -/
  | watch (x : Extrinsic)

/-- How an activity ends. -/
inductive Outcome where
  | connected (result : Except Store.Error Store)
  | finished (op : Store.Operation) (delivered : List Bytes)
      (result : Except Store.Error Store.Output)
  | nonce (result : Except Store.Error Nonce)
  | submitted (kind : CallKind) (call : EncodedCall) (result : Except Store.Error TxHash)
  | included (kind : CallKind) (call : EncodedCall) (result : Except Store.Error Receipt)
  | receipt (result : Except Node.Error Receipt)

/-- Where an activity stands. -/
inductive Progress where
  | running (next : Activity)
  | ended (outcome : Outcome)

namespace Progress

def ofTask (op : Store.Operation) : Store.Progress → Progress
  | .running task => running (.operation op task)
  | .ended delivered result => ended (.finished op delivered result)

def ofConnecting (signer : Signer) (config : Store.Config) : Store.Connecting.Progress → Progress
  | .running next => running (.connection signer config next)
  | .ended result => ended (.connected (result.map (Store.withSession signer config)))

end Progress

namespace Activity

/-- The request whose reply an activity waits for. -/
abbrev request : Activity → Node.Request
  | connection _ _ c => c.request
  | operation _ task => task.request
  | nonceQuery session account => Store.nonceRequest session account
  | submission _ x => .submit x
  | inclusion _ x => .submitAndWatch x
  | watch x => .submitAndWatch x

/-- Goes on with the reply. -/
def resume : (a : Activity) → a.request.Reply → Progress
  | connection signer config c, reply => .ofConnecting signer config (c.resume config.layout reply)
  | operation op task, reply => .ofTask op (task.resume reply)
  | nonceQuery _ _, reply => .ended (.nonce (Store.nonceOfReply reply))
  | submission kind x, reply =>
    .ended (.submitted kind x.call (Store.submissionOfReply reply))
  | inclusion kind x, reply =>
    .ended (.included kind x.call (Store.submissionOfReply reply))
  | watch _, reply => .ended (.receipt reply)

/-- Sets out to connect a store. -/
def connect (signer : Signer) (config : Store.Config) : Progress :=
  .ofConnecting signer config (Store.Connecting.start config)

/-- Asks for the nonce of an account, unless the store is closed. -/
def askNonce (s : Store) (account : AccountId) : Progress :=
  match s.opened with
  | .ok s => .running (nonceQuery s.session account)
  | .error e => .ended (.nonce (.error e))

/-- Sends a call under a nonce, for another signer on the store's session. -/
def send (s : Store.Opened) (signer : Signer) (call : Call) (nonce : Nonce) (watched : Bool) :
    Progress :=
  let encoded := s.session.encodeCall call
  match { s with signer }.sign nonce call with
  | .ok x => .running (if watched then inclusion call.kind x else submission call.kind x)
  | .error e =>
    .ended (if watched then .included call.kind encoded (.error e)
      else .submitted call.kind encoded (.error e))

end Activity

end MetaLedger.Workbench
