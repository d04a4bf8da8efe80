import MetaLedger.Signer
import MetaLedger.Store.Config
import MetaLedger.Store.Nonce

/-!
# Stores

A store keeps metadata values under a namespace and a key on a ledger: it reads the ledger's state, and
writes by sending signed transactions. It holds its session until it is closed.
-/

namespace MetaLedger

/-- A store over a ledger. Its session is gone once it is closed. -/
structure Store where
  signer : Signer
  config : Store.Config
  session : Option Store.Session

namespace Store

/-- A store while it is open: what its operations work with. -/
structure Opened where
  signer : Signer
  config : Config
  session : Session

/-- The store, unless it is closed. -/
def opened (s : Store) : Except Error Opened :=
  match s.session with
  | some session => .ok ⟨s.signer, s.config, session⟩
  | none => .error ⟨.closed, none⟩

/-- The store for an operation. -/
def openFor (s : Store) (op : Operation) : Except Error Opened :=
  s.opened.mapError (·.during op .acquireSession)

namespace Opened

/-- The address of a record for an operation. -/
def address (s : Opened) (op : Operation) (ns key : Bytes) : Except Error Address :=
  match s.session.keys.deriveAddress ns key with
  | .ok address => .ok address
  | .error failure => failAt op .deriveAddress (.addressDerivation failure)

/-- What all addresses of a namespace begin with. -/
def namespaceAddress (s : Opened) (ns : Bytes) : Except Error Address :=
  match s.session.keys.namespacePrefix ns with
  | .ok address => .ok address
  | .error failure => failAt .listKeys .deriveAddress (.addressDerivation failure)

/-- Signs a call at a nonce, without a tip. -/
def sign (s : Opened) (nonce : Nonce) (call : Call) : Except Error Extrinsic :=
  match s.signer.extrinsic s.session.chain nonce (s.session.encodeCall call) with
  | .ok x => .ok x
  | .error failure => .error ⟨.signing failure, none⟩

/-- The nonce for a write: an account that is not found may count as one without transactions. -/
def nonceFor (s : Opened) (op : Operation) (reply : Except Node.Error (Option Bytes)) :
    Except Error Nonce :=
  match nonceOfReply reply with
  | .ok nonce => .ok nonce
  | .error e =>
    if e.isNotFound && s.config.absentAccount = .assumeZero then .ok 0
    else .error (e.during op .fetchNonce)

end Opened

/-- The data of the record in an answer, for an operation. -/
def dataOfReply (op : Operation) (reply : Except Node.Error (Option Bytes)) :
    Except Error Bytes :=
  match reply with
  | .error e => failAt op .queryState (.chainQuery e)
  | .ok none => failAt op .queryState .notFound
  | .ok (some raw) =>
    match Record.decode raw with
    | .ok record => .ok record.data
    | .error failure => failAt op .decode (.encoding failure)

/-- Whether the answer holds a record; any failure other than that none is stored is kept. -/
def existsInReply (op : Operation) (reply : Except Node.Error (Option Bytes)) :
    Except Error Bool :=
  match dataOfReply op reply with
  | .ok _ => .ok true
  | .error e => if e.isNotFound then .ok false else .error e

/-- What a receipt means for a write: that a record to be removed is gone already is no failure. -/
def outcomeOfReceipt (op : Operation) (kind : CallKind) (receipt : Receipt) :
    Except Error Unit :=
  match receipt.outcome with
  | .success => .ok ()
  | .failed reason =>
    if reason = .metadataNotFound ∧ kind = .delete then .ok ()
    else failAt op .awaitInclusion (.dispatch receipt.block reason)

/-- The keys of a page up to the first address that is not a key's, and the error for that one. -/
def keysOfPage (start : Address) : List Address → List Bytes × Option Error
  | [] => ([], none)
  | address :: rest =>
    match StorageKeys.recoverKey start address with
    | .error failure => ([], some ⟨.encoding failure, some (.listKeys, .decode)⟩)
    | .ok key =>
      let (keys, stop) := keysOfPage start rest
      (key :: keys, stop)

end Store

end MetaLedger
