import MetaLedger.Node.Request

/-!
# Why a store operation fails

An error is a cause and, once it has left its operation, the operation and the step at which it
arose. The first step that an error is put under stays (`during`).
-/

namespace MetaLedger.Store

/-- The operations of a store. -/
inductive Operation where
  | connect
  | set
  | get
  | delete
  | update
  | listKeys
  | close
deriving DecidableEq

namespace Operation

def name : Operation → String
  | connect => "connect"
  | set => "set"
  | get => "get"
  | delete => "delete"
  | update => "update"
  | listKeys => "list_keys"
  | close => "close"

end Operation

/-- The steps of the operations. -/
inductive Step where
  | validateConfig
  | acquireSession
  | fetchSchema
  | fetchGenesis
  | fetchRuntimeVersion
  | resolveSchema
  | deriveAddress
  | queryState
  | decode
  | transform
  | fetchNonce
  | sign
  | submit
  | awaitInclusion
  | scanKeys
  | release
deriving DecidableEq

namespace Step

def name : Step → String
  | validateConfig => "validate_config"
  | acquireSession => "acquire_session"
  | fetchSchema => "fetch_schema"
  | fetchGenesis => "fetch_genesis"
  | fetchRuntimeVersion => "fetch_runtime_version"
  | resolveSchema => "resolve_schema"
  | deriveAddress => "derive_address"
  | queryState => "query_state"
  | decode => "decode"
  | transform => "transform"
  | fetchNonce => "fetch_nonce"
  | sign => "sign"
  | submit => "submit"
  | awaitInclusion => "await_inclusion"
  | scanKeys => "scan_keys"
  | release => "release"

end Step

/-- What is wrong with a configuration. -/
inductive ConfigCause where
  | pageSize
  | emptyName (field : String)
  | reported (text : String)
deriving DecidableEq

namespace ConfigCause

def message : ConfigCause → String
  | pageSize => "key_page_size must be at least 1"
  | emptyName field => "layout." ++ field ++ " must not be empty"
  | reported text => text

end ConfigCause

/-- Why a store operation fails. -/
inductive Cause where
  | encoding (failure : Failure)
  | addressDerivation (failure : Failure)
  | chainQuery (error : Node.Error)
  /-- Nothing is stored at the address. -/
  | notFound
  | signing (failure : Failure)
  | submission (error : Node.Error)
  /-- The transaction is in a block, and its call was refused. -/
  | dispatch (block : BlockHash) (reason : DispatchError)
  | schema (failure : Failure)
  | config (cause : ConfigCause)
  /-- The caller's function gave no new value. -/
  | updateAborted (text : String)
  | closed
deriving DecidableEq

namespace Cause

def message : Cause → String
  | encoding failure => "encoding error: " ++ failure.message
  | addressDerivation failure => "address derivation error: " ++ failure.message
  | chainQuery error => "chain query error: " ++ error.message
  | notFound => "not found"
  | signing failure => "signing error: " ++ failure.message
  | submission error => "submission error: " ++ error.message
  | dispatch block reason =>
    "dispatch failed in block " ++ block.text ++ ": " ++ reason.name
  | schema failure => "schema error: " ++ failure.message
  | config cause => "invalid configuration: " ++ cause.message
  | updateAborted text => "update aborted: " ++ text
  | closed => "adapter closed"

end Cause

/-- A cause, with the operation and step at which it arose once they are known. -/
structure Error where
  cause : Cause
  context : Option (Operation × Step) := none
deriving DecidableEq

namespace Error

/-- Names the operation and step of an error that has none yet. -/
def during (e : Error) (op : Operation) (step : Step) : Error :=
  match e.context with
  | none => ⟨e.cause, some (op, step)⟩
  | some _ => e

def operation? (e : Error) : Option Operation := e.context.map (·.1)

def step? (e : Error) : Option Step := e.context.map (·.2)

def isNotFound (e : Error) : Bool := e.cause = .notFound

/-- The store or the node behind it has been closed. -/
def isClosed (e : Error) : Bool :=
  match e.cause with
  | .closed | .chainQuery .closed | .submission .closed => true
  | _ => false

/-- The pool's reason, if the transaction was refused. -/
def rejection? (e : Error) : Option Node.Rejection :=
  match e.cause with
  | .submission error => error.rejection?
  | _ => none

def message (e : Error) : String :=
  match e.context with
  | none => e.cause.message
  | some (op, step) => op.name ++ " failed at " ++ step.name ++ ": " ++ e.cause.message

end Error

/-- An error of `cause` at a step of an operation. -/
def failAt {α : Type} (op : Operation) (step : Step) (cause : Cause) : Except Error α :=
  .error ⟨cause, some (op, step)⟩

end MetaLedger.Store
