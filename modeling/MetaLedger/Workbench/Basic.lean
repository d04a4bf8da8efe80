import MetaLedger.Workbench.Activity
import MetaLedger.Workbench.Front

/-!
# The workbench

One ledger, the stores that are connected to it, and what they have under way. An activity moves from
request to request (`move`), one request at a time; which activity moves when is up to the caller.
It is held up in two cases: a front puts a read off, or a transaction is not in a block yet.
-/

namespace MetaLedger.Workbench

open Ledger (Ticket)

/-- What holds an activity up. -/
inductive Hold where
  | none
  /-- Its request was put off once and will be served. -/
  | putOff
  | ticket (ticket : Ticket)

/-- An activity under way, with the front it goes through, if not straight to the ledger. -/
structure Pending where
  activity : Activity
  front : Option Nat := .none
  hold : Hold := .none

/-- What comes of trying to move an activity. -/
inductive Motion where
  | moved (p : Pending)
  | held (p : Pending)
  | ended (outcome : Outcome)

/-- A connected store, with the front it goes through. -/
structure Client where
  store : Store
  front : Option Nat := none

end Workbench

open Workbench

/-- A ledger with its stores and what they have under way. -/
structure Workbench where
  rules : Ledger.Rules
  ledger : Ledger.State
  fronts : List Front := []
  clients : List Client := []
  /-- What is under way, by number. -/
  pending : List (Nat × Pending) := []
  /-- How many numbers have been given out. -/
  nextPending : Nat := 0

namespace Workbench

open Ledger (Rules State Service)

/-- A workbench with a new ledger and nothing else. -/
def ofConfig (c : Ledger.Config) : Workbench :=
  let rules := Rules.ofConfig c
  ⟨rules, State.initial rules, [], [], [], 0⟩

/-- Puts a request to the ledger, through a front if there is one. -/
def serve (w : Workbench) (front : Option Nat) (request : Node.Request) :
    Service request × Workbench :=
  match front.bind fun i => w.fronts[i]?.map (i, ·) with
  | some (i, f) =>
    let (f, service, ledger) := f.serve w.rules w.ledger request
    (service, { w with ledger, fronts := w.fronts.set i f })
  | none =>
    let (service, ledger) := w.ledger.serve w.rules request
    (service, { w with ledger })

/-- The front puts the request off. -/
def putsOff (w : Workbench) (front : Option Nat) (request : Node.Request) : Bool :=
  match front.bind fun i => w.fronts[i]? with
  | some f => f.putsOff request
  | none => false

/-- The activity goes on with a reply. -/
def Pending.resume (p : Pending) (reply : p.activity.request.Reply) : Motion :=
  match p.activity.resume reply with
  | .running next => .moved { p with activity := next, hold := .none }
  | .ended outcome => .ended outcome

/-- Puts the request of an activity and takes the reply, or the ticket for it. -/
def put (w : Workbench) (p : Pending) : Motion × Workbench :=
  let (service, w) := w.serve p.front p.activity.request
  match service with
  | .reply value => (p.resume value, w)
  | .waiting ticket => (.moved { p with hold := .ticket ticket }, w)

/-- Moves an activity on by one request or one reply, if nothing holds it up. -/
def move (w : Workbench) (p : Pending) : Motion × Workbench :=
  match p.hold with
  | .none =>
    if w.putsOff p.front p.activity.request then (.held { p with hold := .putOff }, w) else w.put p
  | .putOff => w.put p
  | .ticket ticket =>
    match (w.ledger.answer? ticket).bind p.activity.request.replyOfReceipt? with
    | some reply => (p.resume reply, w)
    | none => (.held p, w)

/-- Moves an activity until it is held up or ends, at most `limit` times. -/
def drive (w : Workbench) : Nat → Pending → Motion × Workbench
  | 0, p => (.held p, w)
  | limit + 1, p =>
    match w.move p with
    | (.moved next, w) => w.drive limit next
    | stopped => stopped

/-- More moves than an activity makes before it is held up or ends: a few requests, and a page for each
stored entry or page given out by a front. Only a listing in pages of no keys goes on beyond them. -/
def moves (w : Workbench) (p : Pending) : Nat :=
  let pages := (p.front.bind fun i => w.fronts[i]?).bind (·.departures.pages)
  8 + w.ledger.best.size + (pages.getD []).length

/-- Keeps the store that a connection ended with. -/
def keep (w : Workbench) (front : Option Nat) : Outcome → Workbench
  | .connected (.ok store) => { w with clients := w.clients ++ [⟨store, front⟩] }
  | _ => w

/-- Where an activity stands that a caller has tried to move. -/
inductive Standing where
  | pending (number : Nat)
  | ended (outcome : Outcome)
  /-- It has ended before, or was dropped. -/
  | gone (number : Nat)
  | unknown

/-- Sets an activity off, through a front if one is given. It gets a number if it is held up. -/
def begin (w : Workbench) (front : Option Nat) : Progress → Standing × Workbench
  | .ended outcome => (.ended outcome, w)
  | .running activity =>
    let p : Pending := { activity, front }
    match w.drive (w.moves p) p with
    | (.ended outcome, w) => (.ended outcome, w.keep front outcome)
    | (.moved p, w) | (.held p, w) =>
      (.pending w.nextPending,
        { w with
          pending := w.pending ++ [(w.nextPending, p)]
          nextPending := w.nextPending + 1 })

/-- Forgets an activity. What it has done remains. -/
def drop (w : Workbench) (number : Nat) : Workbench :=
  { w with pending := w.pending.filter (·.1 ≠ number) }

/-- Tries to move an activity that was held up. -/
def poll (w : Workbench) (number : Nat) : Standing × Workbench :=
  match w.pending.find? (·.1 = number) with
  | none => (if number < w.nextPending then .gone number else .unknown, w)
  | some (_, p) =>
    match w.drive (w.moves p) p with
    | (.ended outcome, w) => (.ended outcome, (w.drop number).keep p.front outcome)
    | (.moved p, w) | (.held p, w) =>
      (.pending number,
        { w with pending := w.pending.map fun q => if q.1 = number then (number, p) else q })

/-! ## Stores -/

/-- Connects a store, straight to the ledger or through a new front. -/
def connect (w : Workbench) (signer : Signer) (config : Store.Config)
    (departures : Option Departures) : Standing × Workbench :=
  match departures with
  | none => w.begin none (Activity.connect signer config)
  | some departures =>
    let front : Front := { departures }
    let extended : Workbench := { w with fronts := w.fronts ++ [front] }
    extended.begin (some w.fronts.length) (Activity.connect signer config)

/-- Takes in a store over a session that is there already. -/
def adopt (w : Workbench) (store : Store) : Workbench :=
  { w with clients := w.clients ++ [{ store }] }

/-- Closes a store; the number names it. -/
def closeStore (w : Workbench) (number : Nat) (c : Client) : Standing × Workbench :=
  let (store, progress) := c.store.close
  { w with clients := w.clients.set number { c with store } }.begin c.front
    (.ofTask .close progress)

/-- What a front was asked since the log was last taken. -/
def takeLog (w : Workbench) (front : Nat) : List Node.Request × Workbench :=
  match w.fronts[front]? with
  | some f => (f.log, { w with fronts := w.fronts.set front { f with log := [] } })
  | none => ([], w)

end Workbench

end MetaLedger
