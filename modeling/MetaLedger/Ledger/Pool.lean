import MetaLedger.Ledger.Execution

/-!
# The pool and the blocks

A transaction that is accepted waits: among the ready ones if its nonce is the next of its signer, and
else, up to 64 nonces ahead, until the ones before it have come. Sealing puts the ready ones into a
block, whose hash is over the block before, its number and its transactions. Whoever waited for a
transaction of the block is told.
-/

namespace MetaLedger.Ledger

/-- How far a nonce may run ahead of the next one. -/
def maxFutureGap : Nat := 64

/-- Where an accepted transaction waits. -/
inductive Placement where
  | ready
  | future
deriving DecidableEq

/-- The call of a transaction, if it is one of the module's and reads as such. -/
def Rules.call? (r : Rules) (c : EncodedCall) : Option Call := do
  let kind ← r.indices.callKind? (← c.index?)
  (Call.decodeArguments kind c.arguments).toOption

namespace State

/-- How many ready transactions an account has. -/
def readyCount (ready : List PoolEntry) (signer : AccountId) : UInt32 :=
  UInt32.ofNat (ready.countP (·.signer = signer))

/-- The nonce that the next ready transaction of an account carries. -/
def expectedNonce (r : Rules) (best : Entries) (ready : List PoolEntry) (signer : AccountId) :
    Nonce :=
  r.nonce best signer + readyCount ready signer

/-- A waiting transaction has the account and nonce. -/
def isPending (s : State) (signer : AccountId) (nonce : Nonce) : Bool :=
  (s.ready ++ s.future).any fun e => e.signer = signer && e.nonce = nonce

/-- The place of a nonce that is not used and not taken. -/
def place (expected nonce : Nonce) : Except Node.Rejection Placement :=
  if nonce = expected then .ok .ready
  else if maxFutureGap < nonce.toNat - expected.toNat then .error .future
  else .ok .future

/-- The account has no free balance. -/
def isUnfunded (r : Rules) (s : State) (signer : AccountId) : Bool :=
  match r.accountInfo? s.best signer with
  | some info => info.free = 0
  | none => true

/-- Checks a transaction: signature, call, funds, nonce. -/
def validate (r : Rules) (s : State) (x : Extrinsic) :
    Except Node.Rejection (Call × Placement) :=
  match x.verify r.chain with
  | .error _ => .error .badProof
  | .ok _ =>
    match r.call? x.call with
    | none => .error .malformed
    | some call =>
      if r.requireFunded && s.isUnfunded r x.signer then .error .payment
      else if x.nonce < r.nonce s.best x.signer then .error .stale
      else if s.isPending x.signer x.nonce then .error .priorityTooLow
      else
        match place (expectedNonce r s.best s.ready x.signer) x.nonce with
        | .ok placement => .ok (call, placement)
        | .error reason => .error reason

/-- The first transaction of an account with the nonce. -/
def isNext (r : Rules) (best : Entries) (ready : List PoolEntry) (signer : AccountId)
    (e : PoolEntry) : Bool :=
  e.signer = signer && e.nonce = expectedNonce r best ready signer

/-- Moves an account's transactions whose turn has come to the ready ones, one by one. -/
def promoteInto (r : Rules) (best : Entries) (signer : AccountId) (ready future : List PoolEntry) :
    List PoolEntry × List PoolEntry :=
  match _found : future.find? (isNext r best ready signer) with
  | none => (ready, future)
  | some e =>
    promoteInto r best signer (ready ++ [e]) (future.eraseP (isNext r best ready signer))
termination_by future.length
decreasing_by
  have := List.length_eraseP_of_mem (List.mem_of_find?_eq_some _found) (List.find?_some _found)
  have := List.length_pos_of_mem (List.mem_of_find?_eq_some _found)
  omega

/-- Moves an account's transactions whose turn has come to the ready ones. -/
def promote (r : Rules) (signer : AccountId) (s : State) : State :=
  let (ready, future) := promoteInto r s.best signer s.ready s.future
  { s with ready, future }

/-! ## Blocks -/

/-- The hash of a block: over the block before, its number in eight bytes, and its transactions. -/
def blockHash (parent : BlockHash) (number : Nat) (txs : List TxHash) : BlockHash :=
  ⟨Digest.blake3 (parent.bytes ++ Bytes.ofNatLE 8 number ++ txs.flatMap TxHash.bytes)⟩

/-- Tells whoever waits for a transaction. -/
def settle (tx : TxHash) (reply : Except Node.Error Receipt) (s : State) : State :=
  match s.watchers.find? (·.1 = tx) with
  | none => s
  | some (_, ticket) =>
    { s with
      watchers := s.watchers.filter (·.1 ≠ tx)
      settled := s.settled ++ [(ticket, reply)] }

/-- Logs a transaction of the head block and tells whoever waits for it. -/
def record (s : State) (tx : Rules.Executed) : State :=
  let logged : State := { s with events := s.events ++ [⟨s.number, tx.hash, tx.event⟩] }
  logged.settle tx.hash (.ok ⟨tx.hash, s.head, s.number, Rules.outcomeOf tx.event⟩)

/-- The accounts that have transactions waiting for an earlier nonce, each once, in their order. -/
def waiting (s : State) : List AccountId :=
  ((s.future.map PoolEntry.signer).mergeSort fun a b => a.bytes ≤ b.bytes).eraseDups

/-- Puts the ready transactions into a block. -/
def sealBlock (r : Rules) (s : State) : State :=
  let (entries, executed) := r.executeAll s.best s.ready
  let number := s.number + 1
  let next : State := { s with
    head := blockHash s.head number (s.ready.map PoolEntry.hash)
    number
    best := entries
    past := ((s.head, s.best) :: s.past).take (r.stateHistory - 1)
    ready := [] }
  let recorded := executed.foldl record next
  recorded.waiting.foldl (fun s signer => s.promote r signer) recorded

/-! ## Operations -/

/-- Registers someone who waits for a transaction. Who waited for it before is turned away. -/
def watch (tx : TxHash) (s : State) : State :=
  let turned := s.settle tx (.error .closed)
  { turned with
    watchers := turned.watchers ++ [(tx, s.nextTicket)]
    nextTicket := s.nextTicket + 1 }

/-- Adds a checked transaction to its place. -/
def enqueue (r : Rules) (entry : PoolEntry) (s : State) : Placement → State
  | .ready => promote r entry.signer { s with ready := s.ready ++ [entry] }
  | .future => { s with future := s.future ++ [entry] }

/-- Seals at once where that is the rule and something is ready. -/
def sealIfInstant (r : Rules) (s : State) : State :=
  if r.sealMode = .instant && !s.ready.isEmpty then s.sealBlock r else s

/-- Hands a transaction to the pool, for someone who waits for it if `watched`. A refused one leaves
no trace. -/
def submit (r : Rules) (x : Extrinsic) (watched : Bool) (s : State) :
    Except Node.Error TxHash × State :=
  if s.closed then (.error .closed, s)
  else
    match s.validate r x with
    | .error reason => (.error (.rejected reason), s)
    | .ok (call, placement) =>
      let hash := x.hash
      let s := if watched then s.watch hash else s
      (.ok hash, (s.enqueue r ⟨hash, x, call⟩ placement).sealIfInstant r)

/-- Seals on request. -/
def requestSeal (r : Rules) (s : State) : Except Node.Error BlockHash × State :=
  if s.closed then (.error .closed, s)
  else
    let next := s.sealBlock r
    (.ok next.head, next)

/-- Gives an account a free balance, also when the ledger is closed. -/
def fund (r : Rules) (account : AccountId) (free : Amount) (s : State) : State :=
  let info := (r.accountInfo? s.best account).getD .fresh
  { s with best := s.best.insert (r.keys.accountAddress account) { info with free }.encode }

/-- Closes the ledger: the pool is emptied, and all who wait are turned away. -/
def close (s : State) : State :=
  if s.closed then s
  else { s with
    closed := true
    ready := []
    future := []
    watchers := []
    settled := s.settled ++ s.watchers.map fun (_, ticket) => (ticket, .error .closed) }

end State

end MetaLedger.Ledger
