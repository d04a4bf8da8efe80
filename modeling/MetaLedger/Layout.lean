import MetaLedger.Bytes

/-!
# The metadata module in a runtime

The names under which a runtime declares the metadata module and the account state (`Layout`), the
three calls of the module (`CallKind`), and the positions at which a runtime of our own puts them
(`ModuleIndices`).
-/

namespace MetaLedger

/-- The names of the metadata module, its storage item and calls, and of the account state. -/
structure Layout where
  pallet : String := "TemplateModule"
  storageItem : String := "MetaStor"
  setCall : String := "set_metadata"
  deleteCall : String := "delete_metadata"
  updateCall : String := "update_metadata"
  systemPallet : String := "System"
  accountItem : String := "Account"
deriving DecidableEq, Inhabited

/-- What a call of the metadata module does to a record. -/
inductive CallKind where
  | set
  | delete
  | update
deriving DecidableEq

namespace CallKind

def name : CallKind → String
  | set => "set"
  | delete => "delete"
  | update => "update"

/-- The runtime's name for the call. -/
def callName (layout : Layout) : CallKind → String
  | set => layout.setCall
  | delete => layout.deleteCall
  | update => layout.updateCall

end CallKind

/-- The position of a call in a runtime. -/
structure CallIndex where
  pallet : UInt8
  call : UInt8
deriving DecidableEq

/-- The positions of the two modules and of the metadata calls. -/
structure ModuleIndices where
  systemPallet : UInt8 := 0
  pallet : UInt8 := 8
  setCall : UInt8 := 0
  deleteCall : UInt8 := 1
  updateCall : UInt8 := 2
deriving DecidableEq, Inhabited

namespace ModuleIndices

def callIndex (m : ModuleIndices) : CallKind → CallIndex
  | .set => ⟨m.pallet, m.setCall⟩
  | .delete => ⟨m.pallet, m.deleteCall⟩
  | .update => ⟨m.pallet, m.updateCall⟩

/-- The call at a position. Where calls share one, the first of set, delete and update is meant. -/
def callKind? (m : ModuleIndices) (index : CallIndex) : Option CallKind :=
  if index.pallet = m.pallet then
    if index.call = m.setCall then some .set
    else if index.call = m.deleteCall then some .delete
    else if index.call = m.updateCall then some .update
    else none
  else none

end ModuleIndices

end MetaLedger
