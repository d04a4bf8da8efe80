import MetaLedger.Ledger.Config
import MetaLedger.Ledger.Entries
import MetaLedger.Node.Request
import MetaLedger.Digest.Blake3

/-!
# The state of a ledger

What a ledger is bound to from its first block on (`Rules`), and what changes (`State`): the chain's
head with its entries, the entries of some blocks before it, the pool of waiting transactions, those
who wait for a receipt, and the log of events.

The entries of the head are kept once, beside it: reading at the head and reading without a block
cannot differ. Where all entries are looked up in a table by the hashes of their blocks (`Tabled`), they
do not differ either, as long as no two blocks have one hash (`Annals.tabled_run`).

Blocks are numbered by natural numbers. Their numbers have no more than 64 bits in any run of fewer than
2 ^ 64 operations (`State.run_numbers_fit`).
-/

namespace MetaLedger.Ledger

/-- What a ledger is bound to from its first block on. -/
structure Rules where
  genesis : BlockHash
  version : RuntimeVersion
  keys : StorageKeys
  schema : RuntimeSchema
  indices : ModuleIndices
  sealMode : SealMode
  requireFunded : Bool
  /-- How many states stay readable, the head's included. -/
  stateHistory : Nat
deriving DecidableEq

namespace Rules

/-- The metadata a ledger of this kind serves: the mark and format of metadata, and nothing more. -/
def metadata : Bytes := [0x6d, 0x65, 0x74, 0x61, 14]

def ofConfig (c : Config) : Rules where
  genesis := ⟨Digest.blake3 (Bytes.ofString c.chain)⟩
  version := c.version
  keys := StorageKeys.ofLayout c.layout
  schema := c.indices.schema metadata c.layout
  indices := c.indices
  sealMode := c.sealMode
  requireFunded := c.requireFunded
  stateHistory := max 1 c.stateHistory

/-- The chain that transactions for the ledger are signed for. -/
def chain (r : Rules) : ChainBinding := ⟨r.genesis, r.version⟩

end Rules

/-! ## What happens to records -/

/-- What a transaction did. -/
inductive Event where
  | created (ns key : Bytes) (owner : AccountId)
  | updated (ns key : Bytes) (owner : AccountId)
  | removed (ns key : Bytes) (owner : AccountId)
  /-- The call was refused. -/
  | failed (reason : DispatchError)
deriving DecidableEq

/-- An event with the block and transaction it came from. -/
structure LoggedEvent where
  block : Nat
  tx : TxHash
  event : Event
deriving DecidableEq

/-! ## The pool -/

/-- A waiting transaction: it has been checked, and its call is known. -/
structure PoolEntry where
  hash : TxHash
  extrinsic : Extrinsic
  call : Call
deriving DecidableEq

namespace PoolEntry

def signer (e : PoolEntry) : AccountId := e.extrinsic.signer

def nonce (e : PoolEntry) : Nonce := e.extrinsic.nonce

end PoolEntry

/-- Names someone who waits for a receipt. -/
abbrev Ticket := Nat

/-- What changes of a ledger. -/
structure State where
  head : BlockHash
  number : Nat := 0
  /-- The entries at the head. -/
  best : Entries := .empty
  /-- The blocks before the head whose entries are kept, latest first. -/
  past : List (BlockHash × Entries) := []
  /-- The transactions of the next block, in their order. -/
  ready : List PoolEntry := []
  /-- The transactions that wait for an earlier nonce, in the order they came. -/
  future : List PoolEntry := []
  /-- Who waits for the receipt of which transaction. -/
  watchers : List (TxHash × Ticket) := []
  /-- What those who waited have been told. -/
  settled : List (Ticket × Except Node.Error Receipt) := []
  nextTicket : Ticket := 0
  /-- What happened so far, in order. -/
  events : List LoggedEvent := []
  closed : Bool := false

namespace State

/-- A ledger with its genesis block only. -/
def initial (r : Rules) : State := { head := r.genesis }

/-- The entries at a block, or at the head. -/
def entriesAt (s : State) : Option BlockHash → Except Node.Error Entries
  | none => .ok s.best
  | some block =>
    if block = s.head then .ok s.best
    else
      match s.past.find? (·.1 = block) with
      | some (_, entries) => .ok entries
      | none => .error (.unknownBlock block)

/-- What a ticket's holder has been told, if anything yet. -/
def answer? (s : State) (ticket : Ticket) : Option (Except Node.Error Receipt) :=
  (s.settled.find? (·.1 = ticket)).map (·.2)

end State

/-- The state of an account, as far as it is stored and reads as one. -/
def Rules.accountInfo? (r : Rules) (e : Entries) (account : AccountId) : Option AccountInfo :=
  (e.get? (r.keys.accountAddress account)).bind AccountInfo.decode?

/-- The nonce of an account; zero for one that is not stored. -/
def Rules.nonce (r : Rules) (e : Entries) (account : AccountId) : Nonce :=
  match r.accountInfo? e account with
  | some info => info.nonce
  | none => 0

end MetaLedger.Ledger
