import MetaLedger.Ledger.Pool

/-!
# A ledger as a node

How a ledger answers the requests of stores. Each is one step; a closed ledger refuses all but the
request to close. A transaction that is watched is answered by a ticket, whose holder is told when the
transaction is in a block or the ledger closes.
-/

namespace MetaLedger.Ledger

/-- What comes of a request: a reply, or a ticket for the receipt. -/
inductive Service (request : Node.Request) where
  | reply (value : request.Reply)
  | waiting (ticket : Ticket)

namespace State

/-- Reads the value at an address. -/
def storage (s : State) (address : Address) (block : Option BlockHash) :
    Except Node.Error (Option Bytes) :=
  if s.closed then .error .closed
  else
    match s.entriesAt block with
    | .ok entries => .ok (entries.get? address)
    | .error e => .error e

/-- Reads a page of addresses. -/
def keys (s : State) (start : Address) (count : UInt32) (after : Option Address)
    (block : Option BlockHash) : Except Node.Error (List Address) :=
  if s.closed then .error .closed
  else
    match s.entriesAt block with
    | .ok entries => .ok (entries.page start count.toNat after)
    | .error e => .error e

/-- Answers with a fixed value as long as the ledger is open. -/
def whileOpen {α : Type} (s : State) (value : α) : Except Node.Error α :=
  if s.closed then .error .closed else .ok value

/-- Answers a request. -/
def serve (r : Rules) (s : State) : (request : Node.Request) → Service request × State
  | .runtimeSchema => (.reply (s.whileOpen r.schema), s)
  | .genesisHash => (.reply (s.whileOpen r.genesis), s)
  | .runtimeVersion => (.reply (s.whileOpen r.version), s)
  | .storage address block => (.reply (s.storage address block), s)
  | .keys start count after block => (.reply (s.keys start count after block), s)
  | .submit x =>
    let (reply, next) := s.submit r x false
    (.reply reply, next)
  | .submitAndWatch x =>
    let (reply, next) := s.submit r x true
    match reply with
    | .error e => (.reply (.error e), next)
    | .ok _ => (.waiting s.nextTicket, next)
  | .close => (.reply (.ok ()), s.close)

/-- A closed ledger refuses every request but the one to close. -/
theorem serve_of_closed {r : Rules} {s : State} (hclosed : s.closed = true)
    {request : Node.Request} (hrequest : request ≠ .close) :
    s.serve r request = (.reply (.error .closed), s) := by
  cases request with
  | runtimeSchema | genesisHash | runtimeVersion => simp [serve, whileOpen, hclosed]
  | storage => simp [serve, storage, hclosed]
  | keys => simp [serve, keys, hclosed]
  | submit => simp [serve, submit, hclosed]
  | submitAndWatch => simp [serve, submit, hclosed]
  | close => exact absurd rfl hrequest

end State

end MetaLedger.Ledger
