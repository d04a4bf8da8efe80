import MetaLedger.Ledger.Service

/-!
# Fronts

A front stands between a store and the ledger. It keeps a log of what it is asked, and can be told to
depart from the ledger: to refuse a kind of request, to answer reads, pages, the schema and the chain
in the ledger's place, or to read one account as it was at an earlier block. A front that is told
nothing answers as the ledger does.
-/

namespace MetaLedger.Workbench

open Ledger (Rules State Service)

/-- How a front departs from the ledger behind it. -/
structure Departures where
  /-- A read has to be asked for twice before anything is done. -/
  yields : Bool := false
  failures : List (Node.Method × Node.Error) := []
  schema : Option RuntimeSchema := none
  /-- Given out in place of the ledger's genesis and versions, as long as the ledger is open. -/
  chain : Option ChainBinding := none
  reads : List (Address × Option Bytes) := []
  /-- An address that is read at a block of the past when it is read without a block. -/
  outdated : Option (Address × BlockHash) := none
  /-- The pages given out in turn; after the last one all are empty. -/
  pages : Option (List (List Address)) := none

/-- A node in front of the ledger. -/
structure Front where
  departures : Departures := {}
  /-- What it was asked, in order. -/
  log : List Node.Request := []

namespace Front

/-- A request is put off once before it is served. -/
def putsOff (f : Front) (request : Node.Request) : Bool :=
  f.departures.yields && request.method = .storage

/-- The block at which an address is read. -/
def blockFor (f : Front) (address : Address) (block : Option BlockHash) : Option BlockHash :=
  match block, f.departures.outdated with
  | none, some (outdated, past) => if address = outdated then some past else none
  | _, _ => block

/-- The next page that is given out in the ledger's place, and those left after it. -/
def nextPage : List (List Address) → List Address × List (List Address)
  | [] => ([], [])
  | page :: rest => (page, rest)

/-- Serves a request that is not refused. -/
def forward (f : Front) (r : Rules) (s : State) :
    (request : Node.Request) → Front × Service request × State
  | .runtimeSchema =>
    match f.departures.schema with
    | some schema => (f, .reply (.ok schema), s)
    | none => (f, s.serve r .runtimeSchema)
  | .genesisHash =>
    (f, .reply (s.whileOpen (f.departures.chain.getD r.chain).genesis), s)
  | .runtimeVersion =>
    (f, .reply (s.whileOpen (f.departures.chain.getD r.chain).version), s)
  | .storage address block =>
    match f.departures.reads.find? (·.1 = address) with
    | some (_, value) => (f, .reply (.ok value), s)
    | none => (f, .reply (s.storage address (f.blockFor address block)), s)
  | .keys start count after block =>
    match f.departures.pages with
    | some pages =>
      let (page, rest) := nextPage pages
      ({ f with departures := { f.departures with pages := some rest } }, .reply (.ok page), s)
    | none => (f, s.serve r (.keys start count after block))
  | .submit x => (f, s.serve r (.submit x))
  | .submitAndWatch x => (f, s.serve r (.submitAndWatch x))
  | .close => (f, s.serve r .close)

/-- Logs a request and serves it, unless it is one to be refused. -/
def serve (f : Front) (r : Rules) (s : State) (request : Node.Request) :
    Front × Service request × State :=
  let f := { f with log := f.log ++ [request] }
  match f.departures.failures.find? (·.1 = request.method) with
  | some (_, e) => (f, .reply (.error e), s)
  | none => f.forward r s request

end Front

end MetaLedger.Workbench
