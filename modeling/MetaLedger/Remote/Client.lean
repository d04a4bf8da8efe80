import MetaLedger.Remote.Config
import MetaLedger.Remote.Inclusion
import MetaLedger.Remote.Url

/-!
# The client of a remote node

A client posts its requests under running numbers, also those that fail, until it is closed. It
connects for watching when a transaction is first watched, and tries again after a failure.
What is on the other side is a function from what is sent to what comes back, so a client's answers
are determined by it.
-/

namespace MetaLedger.Remote

/-- The other side of a client. -/
structure Network where
  /-- What a posted body comes back with, if the connection lasts. -/
  post : Json → Option Response
  watchNode : WatchNode

/-- A client of a remote node. -/
structure Client where
  config : Config
  nextId : Nat := 1
  closed : Bool := false
  /-- What was learned when the connection for watching was made. -/
  watching : Option RuntimeTypes := none

namespace Client

/-- Posts a query and reads the result. -/
def ask {request : Node.Request} (c : Client) (net : Network) (q : Query request) :
    request.Reply × Client :=
  if c.closed then (.error .closed, c)
  else
    let next := { c with nextId := c.nextId + 1 }
    match net.post (q.body c.nextId) with
    | none => (.error (.transport .noAnswer), next)
    | some response =>
      match response.result with
      | .ok result => (q.read result, next)
      | .error e => (.error e, next)

/-- The connection for watching: the one there is, or a new one to a safe place. -/
def connected (c : Client) (net : Network) : Except Node.Error RuntimeTypes :=
  if c.closed then .error .closed
  else
    match c.config.watchUrl with
    | none => .error (.unsupported .noWatchEndpoint)
    | some url =>
      match c.watching with
      | some types => .ok types
      | none =>
        match urlRefusal? url with
        | some message => .error (errorOfMessage message)
        | none => net.watchNode.connect

/-- Watches a transaction until it is in a block. -/
def watch (c : Client) (net : Network) (x : Extrinsic) : Except Node.Error Receipt × Client :=
  match c.connected net with
  | .error e => (.error e, c)
  | .ok types => (net.watchNode.watch types x, { c with watching := some types })

/-- Answers a request by way of the other side. -/
def serve (c : Client) (net : Network) (request : Node.Request) : request.Reply × Client :=
  match request, route request with
  | _, .post q => c.ask net q
  | _, .subscribe x => c.watch net x
  | _, .release => (.ok (), { c with closed := true })

/-- What is posted for a request, if anything is. -/
def posted? (c : Client) (request : Node.Request) : Option Json :=
  match route request with
  | .post q => if c.closed then none else some (q.body c.nextId)
  | _ => none

/-- What is handed in for a request by subscription, if anything is. -/
def handedIn? (c : Client) (net : Network) : Node.Request → Option Json
  | .submitAndWatch x =>
    match c.connected net with
    | .ok _ => some (.array [parameter x.encode])
    | .error _ => none
  | _ => none

end Client

end MetaLedger.Remote
