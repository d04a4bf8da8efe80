import MetaLedger.Store.Error

/-!
# Sessions

What a store learns of a ledger when it connects and keeps from then on: the chain its signatures are
bound to, where its records are filed, and the positions of the three calls. A runtime that lacks one
of the names has no session.
-/

namespace MetaLedger.Store

/-- The facts of a chain, under the names of a layout. -/
structure Session where
  schema : RuntimeSchema
  chain : ChainBinding
  layout : Layout
  keys : StorageKeys
  setCall : CallIndex
  deleteCall : CallIndex
  updateCall : CallIndex
deriving DecidableEq

namespace Session

/-- Looks the names of a layout up in a schema: the two storage items, then the three calls. -/
def resolve (schema : RuntimeSchema) (chain : ChainBinding) (layout : Layout) :
    Except Failure Session := do
  schema.ensureStorage layout.pallet layout.storageItem
  schema.ensureStorage layout.systemPallet layout.accountItem
  let setCall ← schema.callIndex layout.pallet layout.setCall
  let deleteCall ← schema.callIndex layout.pallet layout.deleteCall
  let updateCall ← schema.callIndex layout.pallet layout.updateCall
  return ⟨schema, chain, layout, StorageKeys.ofLayout layout, setCall, deleteCall, updateCall⟩

/-- The session over facts that were fetched elsewhere. -/
def ofParts (schema : RuntimeSchema) (chain : ChainBinding) (layout : Layout) :
    Except Error Session :=
  match resolve schema chain layout with
  | .ok session => .ok session
  | .error failure => .error ⟨.schema failure, none⟩

def callIndex (s : Session) : CallKind → CallIndex
  | .set => s.setCall
  | .delete => s.deleteCall
  | .update => s.updateCall

/-- A call at its position in the runtime. -/
def encodeCall (s : Session) (call : Call) : EncodedCall := call.encodeAt (s.callIndex call.kind)

end Session

end MetaLedger.Store
