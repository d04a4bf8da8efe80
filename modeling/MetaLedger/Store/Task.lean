import MetaLedger.Store.Basic

/-!
# Store operations, step by step

An operation of a store is a task that stops at each request to the node and goes on with the reply
(`Task.request`, `Task.resume`). Nothing is decided between the two, so the replies may come from any
node, at any time, and in between those of other tasks. `set` reads before it writes, because the
module inserts and replaces by different calls; `update` is a read and a later write, and no one
keeps others from writing in between.
-/

namespace MetaLedger.Store

/-- Gives the new data of a record from the old, or refuses. -/
abbrev Transform := Bytes → Except Error Bytes

/-- What an operation gives back. -/
inductive Output where
  | done
  | value (data : Bytes)
deriving DecidableEq

/-- An operation that waits for the reply to a request. -/
inductive Task where
  /-- Reads a record for its data. -/
  | get (s : Opened) (address : Address)
  /-- Reads a record to see whether it is there, before it is written. -/
  | set (s : Opened) (ns key data : Bytes) (address : Address)
  /-- Reads a record to change it. -/
  | update (s : Opened) (ns key : Bytes) (transform : Transform) (address : Address)
  /-- Reads the nonce for a call. -/
  | nonce (s : Opened) (op : Operation) (call : Call)
  /-- Hands a transaction to the pool. -/
  | submission (op : Operation) (x : Extrinsic)
  /-- Hands a transaction to the pool and waits until it is in a block. -/
  | inclusion (op : Operation) (kind : CallKind) (x : Extrinsic)
  /-- Reads a page of addresses; `delivered` are the keys of the pages before. -/
  | page (s : Opened) (start : Address) (after : Option Address) (delivered : List Bytes)
  /-- Releases the node. -/
  | release

/-- Where an operation stands: it waits for a reply, or it has ended, having delivered the given
keys. -/
inductive Progress where
  | running (task : Task)
  | ended (delivered : List Bytes) (result : Except Error Output)

namespace Progress

def done : Progress := ended [] (.ok .done)

def failed (e : Error) : Progress := ended [] (.error e)

/-- Ends with the error, or goes on with the value. -/
def andThen {α : Type} (result : Except Error α) (next : α → Progress) : Progress :=
  match result with
  | .ok value => next value
  | .error e => failed e

end Progress

open Progress

namespace Task

/-- The request whose reply a task waits for. -/
abbrev request : Task → Node.Request
  | get _ address => .storage address none
  | set _ _ _ _ address => .storage address none
  | update _ _ _ _ address => .storage address none
  | nonce s _ _ => nonceRequest s.session s.signer.account
  | submission _ x => .submit x
  | inclusion _ _ x => .submitAndWatch x
  | page s start after _ => .keys start s.config.pageSize after none
  | release => .close

/-- The submission of a signed transaction, as the store's configuration has it. -/
def submit (s : Opened) (op : Operation) (kind : CallKind) (x : Extrinsic) : Task :=
  match s.config.submission with
  | .pool => submission op x
  | .inBlock => inclusion op kind x

/-- Goes on with the reply. -/
def resume : (t : Task) → t.request.Reply → Progress
  | get _ _, reply => andThen (dataOfReply .get reply) fun data => ended [] (.ok (.value data))
  | set s ns key data _, reply =>
    andThen (existsInReply .set reply) fun isThere =>
      running (nonce s .set (if isThere then .update ns key data else .set ns key data))
  | update s ns key transform _, reply =>
    andThen (dataOfReply .update reply) fun old =>
      andThen ((transform old).mapError (·.during .update .transform)) fun data =>
        running (nonce s .update (.update ns key data))
  | nonce s op call, reply =>
    andThen (s.nonceFor op reply) fun n =>
      andThen ((s.sign n call).mapError (·.during op .sign)) fun x =>
        running (submit s op call.kind x)
  | submission op _, reply =>
    andThen ((submissionOfReply reply).mapError (·.during op .submit)) fun _ => done
  | inclusion op kind _, reply =>
    andThen ((submissionOfReply reply).mapError (·.during op .submit)) fun receipt =>
      andThen (outcomeOfReceipt op kind receipt) fun _ => done
  | page s start _ delivered, reply =>
    match reply with
    | .error e => ended delivered (failAt .listKeys .scanKeys (.chainQuery e))
    | .ok addresses =>
      let (keys, stop) := keysOfPage start addresses
      let delivered := delivered ++ keys
      match stop with
      | some e => ended delivered (.error e)
      | none =>
        if addresses.length < s.config.pageSize.toNat then ended delivered (.ok .done)
        else running (page s start addresses.getLast? delivered)
  | release, reply =>
    match reply with
    | .ok _ => done
    | .error e => failed ⟨.chainQuery e, some (.close, .release)⟩

end Task

/-! ## Starting an operation -/

/-- Fetches the value under a namespace and key. -/
def get (s : Store) (ns key : Bytes) : Progress :=
  andThen (s.openFor .get) fun s =>
    andThen (s.address .get ns key) fun address => running (.get s address)

/-- Stores a value under a namespace and key, whether there is one or not. -/
def set (s : Store) (ns key data : Bytes) : Progress :=
  andThen (s.openFor .set) fun s =>
    andThen (s.address .set ns key) fun address => running (.set s ns key data address)

/-- Removes what is stored under a namespace and key; there need be nothing. -/
def delete (s : Store) (ns key : Bytes) : Progress :=
  andThen (s.openFor .delete) fun s =>
    andThen (s.address .delete ns key) fun _ => running (.nonce s .delete (.delete ns key))

/-- Replaces the value under a namespace and key by a function of it. -/
def update (s : Store) (ns key : Bytes) (transform : Transform) : Progress :=
  andThen (s.openFor .update) fun s =>
    andThen (s.address .update ns key) fun address => running (.update s ns key transform address)

/-- Delivers the keys of a namespace in the order of their addresses. -/
def listKeys (s : Store) (ns : Bytes) : Progress :=
  andThen (s.openFor .listKeys) fun s =>
    andThen (s.namespaceAddress ns) fun start => running (.page s start none [])

/-- Closes the store. The node is released by the first one to close it. -/
def close (s : Store) : Store × Progress :=
  match s.session with
  | some _ => ({ s with session := none }, running .release)
  | none => (s, done)

end MetaLedger.Store
